/-
# Blank characters

The characters with the property `White_Space`, and the removal of them from both ends of a
text.
-/
import LinkWatch.Text.Ranges

namespace LinkWatch.Text

/-- The property `White_Space`. -/
def blankRanges : List (Nat × Nat) := [
  (0x9, 0xd), (0x20, 0x20), (0x85, 0x85), (0xa0, 0xa0), (0x1680, 0x1680), (0x2000, 0x200a),
  (0x2028, 0x2029), (0x202f, 0x202f), (0x205f, 0x205f), (0x3000, 0x3000)
]

/-- Whether a character is blank. -/
def isBlank (c : Char) : Bool := inRanges blankRanges c.toNat

/-- The characters `cs` without the blanks at both ends. -/
def trimBlanks (cs : List Char) : List Char :=
  ((cs.dropWhile isBlank).reverse.dropWhile isBlank).reverse

/-- A text without the blanks at both ends. -/
def trim (s : String) : String := String.ofList (trimBlanks s.toList)

/-- A digit is not blank. -/
theorem isBlank_of_isDigit {c : Char} (h : c.isDigit = true) : isBlank c = false := by
  have hrange : 48 ≤ c.toNat ∧ c.toNat ≤ 57 := Char.isDigit_iff_toNat.mp h
  refine Bool.eq_false_iff.mpr fun hblank => ?_
  rw [isBlank, inRanges_iff] at hblank
  obtain ⟨⟨first, last⟩, hmem, hfirst, hlast⟩ := hblank
  simp only [blankRanges, List.mem_cons, Prod.mk.injEq, List.not_mem_nil, or_false] at hmem
  omega

/-- What is dropped at both ends are blanks. -/
theorem exists_append_trimBlanks (cs : List Char) : ∃ before after,
    cs = before ++ trimBlanks cs ++ after ∧
    (∀ c ∈ before, isBlank c = true) ∧ ∀ c ∈ after, isBlank c = true := by
  have hfront := List.takeWhile_append_dropWhile (p := isBlank) (l := cs)
  have hback := List.takeWhile_append_dropWhile (p := isBlank) (l := (cs.dropWhile isBlank).reverse)
  refine ⟨cs.takeWhile isBlank, ((cs.dropWhile isBlank).reverse.takeWhile isBlank).reverse, ?_,
    fun c hc => ?_, fun c hc => ?_⟩
  · rw [trimBlanks, List.append_assoc, ← List.reverse_append, hback, List.reverse_reverse, hfront]
  · exact List.all_eq_true.mp List.all_takeWhile c hc
  · exact List.all_eq_true.mp List.all_takeWhile c (List.mem_reverse.mp hc)

/-- Blanks at both ends are dropped, and nothing else is. -/
theorem trimBlanks_append {before cs after : List Char}
    (hbefore : ∀ c ∈ before, isBlank c = true) (hafter : ∀ c ∈ after, isBlank c = true)
    (hfirst : ∀ c ∈ cs.head?, isBlank c = false) (hlast : ∀ c ∈ cs.getLast?, isBlank c = false) :
    trimBlanks (before ++ cs ++ after) = cs := by
  have hback : ∀ c ∈ after.reverse, isBlank c = true := fun c hc =>
    hafter c (List.mem_reverse.mp hc)
  rw [trimBlanks, List.append_assoc, List.dropWhile_append_of_pos hbefore]
  cases cs with
  | nil =>
    have hnil : (after ++ []).dropWhile isBlank = [] := List.dropWhile_append_of_pos hafter
    rw [List.append_nil] at hnil
    rw [List.nil_append, hnil]
    rfl
  | cons c cs =>
    have hc : isBlank c = false := hfirst c rfl
    rw [List.cons_append, List.dropWhile_cons_of_neg (by simp [hc]), ← List.cons_append,
      List.reverse_append, List.dropWhile_append_of_pos hback]
    obtain ⟨d, ds, hds⟩ := List.exists_cons_of_ne_nil (List.reverse_ne_nil_iff.mpr
      (List.cons_ne_nil c cs))
    have hd : isBlank d = false :=
      hlast d (by rw [← List.head?_reverse, hds, List.head?_cons]; rfl)
    rw [hds, List.dropWhile_cons_of_neg (by simp [hd]), ← hds, List.reverse_reverse]

/-- A text without blanks at its ends stays. -/
theorem trimBlanks_eq_self {cs : List Char} (hfirst : ∀ c ∈ cs.head?, isBlank c = false)
    (hlast : ∀ c ∈ cs.getLast?, isBlank c = false) : trimBlanks cs = cs := by
  have h : trimBlanks ([] ++ cs ++ []) = cs :=
    trimBlanks_append (List.forall_mem_nil _) (List.forall_mem_nil _) hfirst hlast
  rwa [List.append_nil, List.nil_append] at h

end LinkWatch.Text
