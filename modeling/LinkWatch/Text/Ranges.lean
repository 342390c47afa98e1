/-
# Sets of characters as ranges

A property of characters is a list of closed ranges of character numbers.
-/
namespace LinkWatch.Text

/-- Whether `n` lies in one of the closed ranges. -/
def inRanges (ranges : List (Nat × Nat)) (n : Nat) : Bool :=
  ranges.any fun (first, last) => first ≤ n && n ≤ last

theorem inRanges_iff (ranges : List (Nat × Nat)) (n : Nat) :
    inRanges ranges n = true ↔ ∃ r ∈ ranges, r.1 ≤ n ∧ n ≤ r.2 := by
  simp [inRanges]

end LinkWatch.Text
