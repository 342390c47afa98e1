/-
# Rounding a quotient

The whole number nearest to a quotient of two whole numbers, with the two ways in which this
library breaks a tie.
-/
namespace LinkWatch

/-- The whole number nearest to `num / den`; a tie goes to the even neighbour. -/
def roundHalfEven (num den : Nat) : Nat :=
  let low := num / den
  let twice := 2 * (num % den)
  if den < twice ∨ (twice = den ∧ low % 2 = 1) then low + 1 else low

/-- The whole number nearest to `num / den`; a tie goes up. -/
def roundHalfUp (num den : Nat) : Nat := (2 * num + den) / (2 * den)

theorem div_le_roundHalfEven (num den : Nat) : num / den ≤ roundHalfEven num den := by
  unfold roundHalfEven
  dsimp only
  split <;> omega

theorem roundHalfEven_le (num den : Nat) : roundHalfEven num den ≤ num / den + 1 := by
  unfold roundHalfEven
  dsimp only
  split <;> omega

/-- A whole quotient is its own rounding. -/
theorem roundHalfEven_mul (n : Nat) {den : Nat} (h : 0 < den) :
    roundHalfEven (n * den) den = n := by
  have : den ≠ 0 := by omega
  simp [roundHalfEven, Nat.mul_div_cancel n h, Nat.mul_mod_left]
  omega

end LinkWatch
