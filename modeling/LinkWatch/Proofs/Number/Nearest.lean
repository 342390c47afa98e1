/-
# How near the nearest number is

Rounding to the nearest number of the format moves a magnitude by at most `2 ^ (-53)` of it, as
long as the magnitude is neither too small to have 53 significant bits nor too large for the
format.  A whole number of at most 53 bits is not moved at all.
-/
import LinkWatch.Number.Binary64
import Mathlib.Algebra.Order.Ring.Nat
import Mathlib.Tactic.Linarith
import Mathlib.Tactic.Ring

namespace LinkWatch

variable {num den : ℕ}

/-! ## Whole numbers -/

/-- The nearest whole number is at most one half away. -/
lemma roundHalfEven_near (num : ℕ) (hden : 0 < den) :
    2 * (roundHalfEven num den * den) ≤ 2 * num + den ∧
      2 * num ≤ 2 * (roundHalfEven num den * den) + den := by
  have hdiv : num / den * den + num % den = num := Nat.div_add_mod' num den
  have hlt : num % den < den := Nat.mod_lt _ hden
  unfold roundHalfEven
  dsimp only
  split
  next h =>
    rw [Nat.add_mul, Nat.one_mul]
    omega
  next h => omega

/-- A quotient that lies less than one half beside a whole number is rounded to it. -/
lemma roundHalfUp_eq {n : ℕ} (hlow : 2 * (n * den) < 2 * num + den)
    (hhigh : 2 * num < 2 * (n * den) + den) : roundHalfUp num den = n := by
  unfold roundHalfUp
  refine Nat.div_eq_of_lt_le ?_ ?_
  · rw [Nat.mul_left_comm]
    omega
  · rw [Nat.add_mul, Nat.one_mul, Nat.mul_left_comm]
    omega

/-! ## Relative errors -/

/-- The number `a` is off from `b` by at most `2 ^ (-53)` of it. -/
structure Close (a b : ℕ) : Prop where
  le : twoPow 53 * a ≤ twoPow 53 * b + b
  ge : twoPow 53 * b ≤ twoPow 53 * a + b

/-- Relative errors are the same at another scale. -/
lemma Close.scale {a k m : ℕ} (h : Close (a * den) num) (hden : 0 < den)
    (hm : num * k = m * den) : Close (a * k) m := by
  obtain ⟨hle, hge⟩ := h
  constructor
  · refine Nat.le_of_mul_le_mul_right ?_ hden
    linarith [Nat.mul_le_mul_right k hle]
  · refine Nat.le_of_mul_le_mul_right ?_ hden
    linarith [Nat.mul_le_mul_right k hge]

namespace Binary64

/-! ## The nearest number -/

/-- The exponent of the unit, as a variable: its power is too large to be computed. -/
lemma exists_unitsPerOne_eq : ∃ k, k = 1074 ∧ unitsPerOne = twoPow k := by
  unfold unitsPerOne
  generalize 1074 = k
  exact ⟨k, rfl, rfl⟩

lemma unitsPerOne_pos : 0 < unitsPerOne := by
  obtain ⟨k, -, hunit⟩ := exists_unitsPerOne_eq
  rw [hunit]
  exact twoPow_pos k

/-- The shift grows with the magnitude. -/
lemma shiftFor_le {k : ℕ} (h : num < den * twoPow k) : shiftFor num den ≤ k - 53 := by
  have hdiv : num / den < twoPow k := Nat.div_lt_of_lt_mul h
  unfold shiftFor
  rcases Nat.eq_zero_or_pos (num / den) with hz | hz
  · rw [hz]
    exact Nat.zero_le _
  · have hlog : (num / den).log2 < k := (Nat.log2_lt (Nat.ne_of_gt hz)).mpr hdiv
    omega

/-- A magnitude below `2 ^ 64` is not too large for the format. -/
lemma shiftFor_lt (h : num < den * (twoPow 64 * unitsPerOne)) : shiftFor num den < 2045 := by
  obtain ⟨k, hk, hunit⟩ := exists_unitsPerOne_eq
  rw [hunit, ← twoPow_add] at h
  have := shiftFor_le h
  omega

/-- Unless the magnitude is too large, the nearest number has the bits for the shift. -/
lemma nearest?_eq_some (negative : Bool) (h : num < den * (twoPow 64 * unitsPerOne)) :
    ∃ x, nearest? negative num den = some x ∧ x.negative = negative ∧
      x.units = bitsFor num den * twoPow (shiftFor num den) := by
  have hs := shiftFor_lt h
  unfold nearest?
  by_cases hc : bitsFor num den < twoPow 53
  · rw [dif_pos hc, dif_pos (Nat.le_of_lt hs)]
    exact ⟨_, rfl, rfl, rfl⟩
  · have hbits : bitsFor num den = twoPow (52 + 1) :=
      Nat.le_antisymm (bitsFor_le _ _) (Nat.not_lt.mp hc)
    rw [dif_neg hc, dif_pos (Nat.succ_le_of_lt hs)]
    refine ⟨_, rfl, rfl, ?_⟩
    rw [units, hbits, twoPow_add 52 1, Nat.mul_assoc, ← twoPow_add 1, Nat.add_comm 1]

/-- What the shift cuts off of a magnitude with 53 significant bits makes up less than
`2 ^ (-52)` of it. -/
lemma twoPow_shiftFor_le (hden : 0 < den) (hlow : den * twoPow 52 ≤ num) :
    twoPow 52 * (den * twoPow (shiftFor num den)) ≤ num := by
  have hq : twoPow 52 ≤ num / den := (Nat.le_div_iff_mul_le hden).mpr (Nat.mul_comm .. ▸ hlow)
  have hne : num / den ≠ 0 := Nat.ne_of_gt (Nat.lt_of_lt_of_le (twoPow_pos 52) hq)
  have hlog : 52 ≤ (num / den).log2 := (Nat.le_log2 hne).mpr hq
  have hshift : 52 + shiftFor num den = (num / den).log2 := by
    unfold shiftFor
    omega
  calc twoPow 52 * (den * twoPow (shiftFor num den))
      = den * twoPow (52 + shiftFor num den) := by rw [twoPow_add, Nat.mul_left_comm]
    _ ≤ den * (num / den) := by
      rw [hshift]
      exact Nat.mul_le_mul_left den (Nat.log2_self_le hne)
    _ ≤ num := Nat.mul_div_le num den

/-- **Rounding moves a magnitude by at most `2 ^ (-53)` of it.** -/
lemma nearest?_close (negative : Bool) (hden : 0 < den) (hlow : den * twoPow 52 ≤ num)
    (hhigh : num < den * (twoPow 64 * unitsPerOne)) :
    ∃ x, nearest? negative num den = some x ∧ x.negative = negative ∧
      Close (x.units * den) num := by
  obtain ⟨x, hx, hneg, hunits⟩ := nearest?_eq_some negative hhigh
  have hunits' : x.units * den = bitsFor num den * (den * twoPow (shiftFor num den)) := by
    rw [hunits, Nat.mul_assoc, Nat.mul_comm (twoPow _)]
  obtain ⟨hle, hge⟩ := roundHalfEven_near num (Nat.mul_pos hden (twoPow_pos (shiftFor num den)))
  rw [← bitsFor, ← hunits'] at hle hge
  have hscale := twoPow_shiftFor_le hden hlow
  have h53 : twoPow 53 = 2 * twoPow 52 := twoPow_add 1 52
  refine ⟨x, hx, hneg, ?_, ?_⟩
  · rw [h53]
    linarith [Nat.mul_le_mul_left (twoPow 52) hle]
  · rw [h53]
    linarith [Nat.mul_le_mul_left (twoPow 52) hge]

/-- A magnitude keeps its bits if the shift cuts off none of them. -/
lemma bitsFor_eq {n : ℕ} (hden : 0 < den) (h : num = n * (den * twoPow (shiftFor num den))) :
    bitsFor num den = n := by
  unfold bitsFor
  generalize shiftFor num den = s at h ⊢
  rw [h]
  exact roundHalfEven_mul n (Nat.mul_pos hden (twoPow_pos s))

/-- **A whole number of at most 53 bits is its own nearest number.** -/
lemma ofNat?_eq_some {n : ℕ} (h : n < twoPow 53) :
    ∃ x, ofNat? n = some x ∧ x.negative = false ∧ x.units = n * unitsPerOne := by
  have hsmall : n * unitsPerOne < 1 * (twoPow 64 * unitsPerOne) := by
    rw [Nat.one_mul]
    exact Nat.mul_lt_mul_of_pos_right (Nat.lt_trans h (by decide)) unitsPerOne_pos
  obtain ⟨x, hx, hneg, hunits⟩ := nearest?_eq_some false hsmall
  refine ⟨x, hx, hneg, hunits.trans ?_⟩
  -- the shift cuts off nothing but zeros of the unit
  obtain ⟨k, hk, hunit⟩ := exists_unitsPerOne_eq
  have hshift : shiftFor (n * unitsPerOne) 1 ≤ k := by
    have hlt : n * unitsPerOne < 1 * twoPow (53 + k) := by
      rw [Nat.one_mul, twoPow_add, hunit]
      exact Nat.mul_lt_mul_of_pos_right h (twoPow_pos k)
    have := shiftFor_le hlt
    omega
  have hsplit : n * unitsPerOne = n * twoPow (k - shiftFor (n * unitsPerOne) 1) *
      (1 * twoPow (shiftFor (n * unitsPerOne) 1)) := by
    rw [Nat.one_mul, hunit, Nat.mul_assoc, ← twoPow_add, Nat.sub_add_cancel (hunit ▸ hshift)]
  rw [bitsFor_eq Nat.one_pos hsplit, ← Nat.one_mul (twoPow (shiftFor _ _)), ← hsplit]

end Binary64

end LinkWatch
