/-
# Rounding any magnitude

Rounding looks at a quotient only as a number: it is the same for two fractions of the same value
(`nearest?_congr`) and does not change the order of two (`units_le_units`).  Its error is half a unit
in the last place, which is `2 ^ (-53)` of the magnitude, or of `2 ^ 52` units where the magnitude is
smaller than that (`abs_units_sub_le`).  A magnitude that is nearer to a number of the format than
half of the way to its neighbours is rounded to that number (`nearest?_eq_some_self`).
-/
import LinkWatch.Proofs.Number.Nearest
import Mathlib.Algebra.Order.Field.Basic
import Mathlib.Tactic.FieldSimp

namespace LinkWatch

variable {num den num' den' : ℕ}

/-! ## Whole numbers -/

/-- A quotient that lies less than one half beside a whole number is rounded to it. -/
lemma roundHalfEven_eq {n : ℕ} (hlow : 2 * (n * den) < 2 * num + den)
    (hhigh : 2 * num < 2 * (n * den) + den) : roundHalfEven num den = n := by
  have hden : 0 < den := by omega
  obtain ⟨hle, hge⟩ := roundHalfEven_near num hden
  have hlt : roundHalfEven num den * den < (n + 1) * den := by
    rw [Nat.add_mul, Nat.one_mul]
    omega
  have hgt : n * den < (roundHalfEven num den + 1) * den := by
    rw [Nat.add_mul, Nat.one_mul]
    omega
  have h₁ := Nat.lt_of_mul_lt_mul_right hlt
  have h₂ := Nat.lt_of_mul_lt_mul_right hgt
  omega

/-- A smaller fraction has a smaller whole part. -/
lemma div_le_div_of_mul_le (hden : 0 < den) (hden' : 0 < den') (h : num * den' ≤ num' * den) :
    num / den ≤ num' / den' := by
  rw [Nat.le_div_iff_mul_le hden']
  refine Nat.le_of_mul_le_mul_right ?_ hden
  calc num / den * den' * den = num / den * den * den' := Nat.mul_right_comm _ _ _
    _ ≤ num * den' := Nat.mul_le_mul_right _ (Nat.div_mul_le_self num den)
    _ ≤ num' * den := h

/-- Rounding to a whole number does not change the order. -/
lemma roundHalfEven_le_roundHalfEven (hden : 0 < den) (hden' : 0 < den')
    (h : num * den' ≤ num' * den) : roundHalfEven num den ≤ roundHalfEven num' den' := by
  rcases Nat.lt_or_ge (num / den) (num' / den') with hlt | hge
  · exact Nat.le_trans (roundHalfEven_le num den)
      (Nat.le_trans hlt (div_le_roundHalfEven num' den'))
  · -- the whole parts are the same, and so the remainders are compared
    have hq : num / den = num' / den' :=
      Nat.le_antisymm (div_le_div_of_mul_le hden hden' h) hge
    have hnum : num / den * den + num % den = num := Nat.div_add_mod' num den
    have hnum' : num / den * den' + num' % den' = num' := hq ▸ Nat.div_add_mod' num' den'
    have hrest : num % den * den' ≤ num' % den' * den := by
      rw [← hnum, ← hnum', Nat.add_mul, Nat.add_mul, Nat.mul_right_comm _ den' den] at h
      exact Nat.le_of_add_le_add_left h
    have hup : den ≤ 2 * (num % den) → den' ≤ 2 * (num' % den') := by
      intro hhalf
      refine Nat.le_of_mul_le_mul_right ?_ hden
      calc den' * den = den * den' := Nat.mul_comm _ _
        _ ≤ 2 * (num % den) * den' := Nat.mul_le_mul_right _ hhalf
        _ = 2 * (num % den * den') := Nat.mul_assoc _ _ _
        _ ≤ 2 * (num' % den' * den) := Nat.mul_le_mul_left _ hrest
        _ = 2 * (num' % den') * den := (Nat.mul_assoc _ _ _).symm
    have hup' : den < 2 * (num % den) → den' < 2 * (num' % den') := by
      intro hhalf
      refine Nat.lt_of_mul_lt_mul_right (a := den) ?_
      calc den' * den = den * den' := Nat.mul_comm _ _
        _ < 2 * (num % den) * den' := Nat.mul_lt_mul_of_pos_right hhalf hden'
        _ = 2 * (num % den * den') := Nat.mul_assoc _ _ _
        _ ≤ 2 * (num' % den' * den) := Nat.mul_le_mul_left _ hrest
        _ = 2 * (num' % den') * den := (Nat.mul_assoc _ _ _).symm
    simp only [roundHalfEven, ← hq]
    split
    next hround =>
      split
      · exact Nat.le_refl _
      next hround' =>
        exfalso
        rcases hround with hround | ⟨htie, hodd⟩
        · exact hround' (.inl (hup' hround))
        · have := hup (Nat.le_of_eq htie.symm)
          omega
    · split <;> omega

namespace Binary64

variable {negative : Bool} {x y : Binary64}

/-! ## The same for fractions of the same value -/

lemma shiftFor_le_shiftFor (hden : 0 < den) (hden' : 0 < den') (h : num * den' ≤ num' * den) :
    shiftFor num den ≤ shiftFor num' den' := by
  have hq := div_le_div_of_mul_le hden hden' h
  unfold shiftFor
  rcases Nat.eq_zero_or_pos (num / den) with hz | hpos
  · rw [hz]
    exact Nat.zero_le _
  · have hlog : (num / den).log2 ≤ (num' / den').log2 :=
      (Nat.le_log2 (by omega)).mpr (Nat.le_trans (Nat.log2_self_le (by omega)) hq)
    omega

lemma bitsFor_le_bitsFor (hden : 0 < den) (hden' : 0 < den') (h : num * den' ≤ num' * den)
    (hshift : shiftFor num den = shiftFor num' den') : bitsFor num den ≤ bitsFor num' den' := by
  have hpos := twoPow_pos (shiftFor num' den')
  rw [bitsFor, bitsFor, hshift]
  refine roundHalfEven_le_roundHalfEven (Nat.mul_pos hden hpos) (Nat.mul_pos hden' hpos) ?_
  rw [← Nat.mul_assoc, ← Nat.mul_assoc]
  exact Nat.mul_le_mul_right _ h

/-- **Rounding sees a fraction only as a number.** -/
lemma nearest?_congr (negative : Bool) (hden : 0 < den) (hden' : 0 < den')
    (h : num * den' = num' * den) : nearest? negative num den = nearest? negative num' den' := by
  have hshift : shiftFor num den = shiftFor num' den' :=
    Nat.le_antisymm (shiftFor_le_shiftFor hden hden' (Nat.le_of_eq h))
      (shiftFor_le_shiftFor hden' hden (Nat.le_of_eq h.symm))
  have hbits : bitsFor num den = bitsFor num' den' :=
    Nat.le_antisymm (bitsFor_le_bitsFor hden hden' (Nat.le_of_eq h) hshift)
      (bitsFor_le_bitsFor hden' hden (Nat.le_of_eq h.symm) hshift.symm)
  simp only [nearest?, hshift, hbits]

/-! ## Sign and magnitude -/

/-- The sign is kept, and the magnitude has the rounded bits at the shift. -/
lemma units_of_nearest? (h : nearest? negative num den = some x) :
    x.negative = negative ∧ x.units = bitsFor num den * twoPow (shiftFor num den) ∧
      shiftFor num den ≤ x.exponent := by
  unfold nearest? at h
  split at h
  · split at h
    · cases h
      exact ⟨rfl, rfl, Nat.le_refl _⟩
    · cases h
  next hc =>
    split at h
    · cases h
      have hbits : bitsFor num den = twoPow (52 + 1) :=
        Nat.le_antisymm (bitsFor_le _ _) (Nat.not_lt.mp hc)
      refine ⟨rfl, ?_, Nat.le_succ _⟩
      rw [units, hbits, twoPow_add 52 1, Nat.mul_assoc, ← twoPow_add 1, Nat.add_comm 1]
    · cases h

/-- **Rounding does not change the order of two magnitudes.** -/
lemma units_le_units {negative' : Bool} (hden : 0 < den) (hden' : 0 < den')
    (h : num * den' ≤ num' * den) (hx : nearest? negative num den = some x)
    (hy : nearest? negative' num' den' = some y) : x.units ≤ y.units := by
  rw [(units_of_nearest? hx).2.1, (units_of_nearest? hy).2.1]
  rcases Nat.eq_or_lt_of_le (shiftFor_le_shiftFor hden hden' h) with hshift | hshift
  · rw [← hshift]
    exact Nat.mul_le_mul_right _ (bitsFor_le_bitsFor hden hden' h hshift)
  · -- a larger shift, with all of its bits
    calc bitsFor num den * twoPow (shiftFor num den)
        ≤ twoPow 53 * twoPow (shiftFor num den) := Nat.mul_le_mul_right _ (bitsFor_le _ _)
      _ = twoPow 52 * twoPow (shiftFor num den + 1) := by
        rw [← twoPow_add, ← twoPow_add]
        congr 1
        omega
      _ ≤ bitsFor num' den' * twoPow (shiftFor num' den') :=
        Nat.mul_le_mul (le_bitsFor _ _ (by omega)) (twoPow_le_twoPow hshift)

/-- The sign is put on at the end. -/
lemma nearest?_eq_map (negative : Bool) (num den : ℕ) :
    nearest? negative num den =
      (nearest? false num den).map fun y => if negative then y.neg else y := by
  cases negative with
  | false => simp
  | true =>
    unfold nearest?
    split
    · split <;> simp [neg]
    · split <;> simp [neg]

/-! ## Which magnitudes are too large -/

/-- The middle between the largest number of the format and the next power of two, in units. -/
def overflow : ℕ := (twoPow 54 - 1) * twoPow 2044

/-- Its power of two, as a variable: it is too large to be computed. -/
lemma exists_overflow_eq : ∃ k, k = 2044 ∧ overflow = (twoPow 54 - 1) * twoPow k := by
  unfold overflow
  generalize 2044 = k
  exact ⟨k, rfl, rfl⟩

/-- A magnitude below the middle is not too large. -/
lemma exists_nearest?_eq_some (negative : Bool) (h : num < den * overflow) :
    ∃ x, nearest? negative num den = some x := by
  have hden : 0 < den := Nat.pos_of_ne_zero (by rintro rfl; omega)
  obtain ⟨k, hk, hlimit⟩ := exists_overflow_eq
  have hstep : twoPow (k + 1) = 2 * twoPow k := Nat.pow_succ'
  have hsplit : 2 * (den * overflow) + den * twoPow (k + 1) =
      2 * (twoPow 53 * (den * twoPow (k + 1))) := by
    have h54 : twoPow 54 - 1 + 1 = 2 * twoPow 53 := by decide
    rw [hlimit, hstep]
    calc 2 * (den * ((twoPow 54 - 1) * twoPow k)) + den * (2 * twoPow k)
        = 2 * (den * twoPow k) * (twoPow 54 - 1 + 1) := by ring
      _ = 2 * (twoPow 53 * (den * (2 * twoPow k))) := by rw [h54]; ring
  have hpos : 0 < den * twoPow (k + 1) := Nat.mul_pos hden (twoPow_pos _)
  have hshift : shiftFor num den ≤ 2045 := by
    have hlt : num < den * twoPow (53 + (k + 1)) := by
      have hpow : den * twoPow (53 + (k + 1)) = twoPow 53 * (den * twoPow (k + 1)) := by
        rw [twoPow_add 53]
        ring
      omega
    have := shiftFor_le hlt
    omega
  unfold nearest?
  by_cases hc : bitsFor num den < twoPow 53
  · rw [dif_pos hc, dif_pos hshift]
    exact ⟨_, rfl⟩
  · have hsmall : shiftFor num den + 1 ≤ 2045 := by
      by_contra hlarge
      have hs : shiftFor num den = k + 1 := by omega
      obtain ⟨hle, -⟩ := roundHalfEven_near num hpos
      rw [bitsFor, hs] at hc
      have hbits : twoPow 53 * (den * twoPow (k + 1)) ≤
          roundHalfEven num (den * twoPow (k + 1)) * (den * twoPow (k + 1)) :=
        Nat.mul_le_mul_right _ (Nat.not_lt.mp hc)
      omega
    rw [dif_neg hc, dif_pos hsmall]
    exact ⟨_, rfl⟩

/-! ## The error of rounding -/

/-- Rounding errs by half of what the shift cuts off. -/
lemma abs_units_sub_le_shift (hden : 0 < den) (h : nearest? negative num den = some x) :
    |(x.units : ℚ) - num / den| ≤ twoPow (shiftFor num den) / 2 := by
  obtain ⟨-, hunits, -⟩ := units_of_nearest? h
  obtain ⟨hle, hge⟩ := roundHalfEven_near num (Nat.mul_pos hden (twoPow_pos (shiftFor num den)))
  have hbits : roundHalfEven num (den * twoPow (shiftFor num den)) *
      (den * twoPow (shiftFor num den)) = x.units * den := by
    rw [hunits, bitsFor]
    ring
  rw [hbits] at hle hge
  have hdenq : (0 : ℚ) < den := by exact_mod_cast hden
  have hle' : 2 * ((x.units : ℚ) * den) ≤ 2 * num + den * twoPow (shiftFor num den) := by
    exact_mod_cast hle
  have hge' : 2 * (num : ℚ) ≤ 2 * (x.units * den) + den * twoPow (shiftFor num den) := by
    exact_mod_cast hge
  have hnum : (num : ℚ) = num / den * den := by field_simp
  rw [hnum] at hle' hge'
  rw [abs_le]
  constructor <;> nlinarith

/-- That is at most half a unit in the last place of the number. -/
lemma abs_units_sub_le_half (hden : 0 < den) (h : nearest? negative num den = some x) :
    |(x.units : ℚ) - num / den| ≤ twoPow x.exponent / 2 := by
  have hpow : (twoPow (shiftFor num den) : ℚ) ≤ twoPow x.exponent := by
    exact_mod_cast twoPow_le_twoPow (units_of_nearest? h).2.2
  linarith [abs_units_sub_le_shift hden h]

/-- **Rounding errs by at most `2 ^ (-53)` of the magnitude**, or by half of the smallest unit where
there are less than 53 significant bits. -/
lemma abs_units_sub_le (hden : 0 < den) (h : nearest? negative num den = some x) :
    |(x.units : ℚ) - num / den| ≤ max (num / den : ℚ) (2 ^ 52) / 2 ^ 53 := by
  have hdenq : (0 : ℚ) < den := by exact_mod_cast hden
  have hcut : (twoPow (shiftFor num den) : ℚ) * 2 ^ 52 ≤ max (num / den : ℚ) (2 ^ 52) := by
    by_cases hs : shiftFor num den = 0
    · rw [hs]
      exact le_max_of_le_right (by norm_num [twoPow])
    · have hlow : den * twoPow 52 ≤ num := by
        by_contra hsmall
        have := shiftFor_le (k := 52) (Nat.not_le.mp hsmall)
        omega
      refine le_max_of_le_left ?_
      rw [le_div_iff₀ hdenq]
      have hscale : (2 ^ 52 : ℚ) * (den * twoPow (shiftFor num den)) ≤ num := by
        exact_mod_cast twoPow_shiftFor_le hden hlow
      linarith
  linarith [abs_units_sub_le_shift hden h]

/-! ## Magnitudes that are rounded to a given number -/

lemma shiftFor_eq {e : ℕ} (hden : 0 < den) (hlow : e = 0 ∨ den * twoPow (52 + e) ≤ num)
    (hhigh : num < den * twoPow (53 + e)) : shiftFor num den = e := by
  refine Nat.le_antisymm (by have := shiftFor_le hhigh; omega) ?_
  rcases hlow with rfl | hlow
  · exact Nat.zero_le _
  · have hq : twoPow (52 + e) ≤ num / den :=
      (Nat.le_div_iff_mul_le hden).mpr (Nat.mul_comm .. ▸ hlow)
    have hne : num / den ≠ 0 := Nat.ne_of_gt (Nat.lt_of_lt_of_le (twoPow_pos _) hq)
    have hlog : 52 + e ≤ (num / den).log2 := (Nat.le_log2 hne).mpr hq
    unfold shiftFor
    omega

/-- A magnitude beside a number of the format, on the side where that number is not the first one
with its shift. -/
lemma nearest?_eq_of_lt (hden : 0 < den)
    (hlow : x.exponent = 0 ∨ den * twoPow (52 + x.exponent) ≤ num)
    (hbelow : 2 * (x.units * den) < 2 * num + den * twoPow x.exponent)
    (habove : 2 * num < 2 * (x.units * den) + den * twoPow x.exponent) :
    nearest? x.negative num den = some x := by
  obtain ⟨negative, m, e, hm, he, hnormal⟩ := x
  have hsplit : m * twoPow e * den = m * (den * twoPow e) := by ring
  simp only [units, hsplit] at hbelow habove
  have hshift : shiftFor num den = e := by
    refine shiftFor_eq hden hlow ?_
    have hbits : m * (den * twoPow e) + den * twoPow e ≤ twoPow 53 * (den * twoPow e) := by
      rw [← Nat.succ_mul]
      exact Nat.mul_le_mul_right _ hm
    have hpow : den * twoPow (53 + e) = twoPow 53 * (den * twoPow e) := by
      rw [twoPow_add]
      ring
    omega
  have hbits : bitsFor num den = m := by
    rw [bitsFor, hshift]
    exact roundHalfEven_eq hbelow habove
  subst hbits hshift
  unfold nearest?
  rw [dif_pos hm, dif_pos he]

/-- A magnitude just below the first number with a shift: it has twice as many steps there. -/
lemma nearest?_eq_of_lt_first {e : ℕ} (hden : 0 < den) (hexponent : x.exponent = e + 1)
    (hfirst : x.significand = twoPow 52) (hlt : num < den * twoPow (53 + e))
    (hbelow : 2 * (x.units * den) < 2 * num + den * twoPow e) :
    nearest? x.negative num den = some x := by
  obtain ⟨negative, m, e', hm, he, hnormal⟩ := x
  obtain rfl : e' = e + 1 := hexponent
  obtain rfl : m = twoPow 52 := hfirst
  have hpow : twoPow 52 * twoPow (e + 1) * den = twoPow 53 * (den * twoPow e) := by
    have h53 : twoPow 53 = 2 * twoPow 52 := twoPow_add 1 52
    have hsucc : twoPow (e + 1) = 2 * twoPow e := Nat.pow_succ'
    rw [h53, hsucc]
    ring
  have hhigh : den * twoPow (53 + e) = twoPow 53 * (den * twoPow e) := by
    rw [twoPow_add]
    ring
  have hlow : den * twoPow (52 + e) * 2 = twoPow 53 * (den * twoPow e) := by
    have h53 : twoPow 53 = 2 * twoPow 52 := twoPow_add 1 52
    rw [h53, twoPow_add 52]
    ring
  have hmany : den * twoPow e ≤ twoPow 52 * (den * twoPow e) :=
    Nat.le_mul_of_pos_left _ (twoPow_pos 52)
  have hmany' : 2 * (twoPow 52 * (den * twoPow e)) = twoPow 53 * (den * twoPow e) := by
    rw [← Nat.mul_assoc]
    rfl
  simp only [units, hpow] at hbelow
  have hshift : shiftFor num den = e := shiftFor_eq hden (.inr (by omega)) hlt
  have hbits : bitsFor num den = twoPow 53 := by
    rw [bitsFor, hshift]
    exact roundHalfEven_eq hbelow (by omega)
  unfold nearest?
  rw [dif_neg (by rw [hbits]; exact Nat.lt_irrefl _), dif_pos (by rw [hshift]; exact he)]
  simp only [hshift]

/-- Half of the way from a number to its nearer neighbour. Below the first number with a shift the
numbers stand twice as close. -/
def margin (x : Binary64) : ℚ :=
  if x.exponent ≠ 0 ∧ x.significand = twoPow 52 then (twoPow x.exponent : ℚ) / 4
  else (twoPow x.exponent : ℚ) / 2

lemma margin_le (x : Binary64) : x.margin ≤ (twoPow x.exponent : ℚ) / 2 := by
  have hpos : (0 : ℚ) < twoPow x.exponent := by exact_mod_cast twoPow_pos _
  unfold margin
  split <;> linarith

/-- **A magnitude within the margin of a number is rounded to it.** -/
lemma nearest?_eq_some_self (hden : 0 < den) (h : |(num / den : ℚ) - x.units| < x.margin) :
    nearest? x.negative num den = some x := by
  have hdenq : (0 : ℚ) < den := by exact_mod_cast hden
  have hnum : (num : ℚ) = num / den * den := by field_simp
  obtain ⟨hbelow, habove⟩ := abs_lt.mp (lt_of_lt_of_le h x.margin_le)
  have hbelow' : 2 * (x.units * den) < 2 * num + den * twoPow x.exponent := by
    have hq : 2 * ((x.units : ℚ) * den) < 2 * num + den * twoPow x.exponent := by
      rw [hnum]
      nlinarith
    exact_mod_cast hq
  have habove' : 2 * num < 2 * (x.units * den) + den * twoPow x.exponent := by
    have hq : 2 * (num : ℚ) < 2 * (x.units * den) + den * twoPow x.exponent := by
      rw [hnum]
      nlinarith
    exact_mod_cast hq
  by_cases hlow : x.exponent = 0 ∨ den * twoPow (52 + x.exponent) ≤ num
  · exact nearest?_eq_of_lt hden hlow hbelow' habove'
  · obtain ⟨hexponent, hlt⟩ := not_or.mp hlow
    obtain ⟨e, he⟩ := Nat.exists_eq_succ_of_ne_zero hexponent
    have hfirst : x.significand = twoPow 52 := by
      refine Nat.le_antisymm (Nat.le_of_lt_succ ?_) (x.normal.resolve_left hexponent)
      refine Nat.lt_of_mul_lt_mul_right (a := den * twoPow x.exponent) ?_
      have hunits : x.units * den = x.significand * (den * twoPow x.exponent) := by
        rw [units]
        ring
      have hpow : den * twoPow (52 + x.exponent) = twoPow 52 * (den * twoPow x.exponent) := by
        rw [twoPow_add]
        ring
      rw [Nat.succ_mul]
      omega
    have hpow : den * twoPow (53 + e) = den * twoPow (52 + x.exponent) := by
      rw [he]
      congr 2
      omega
    refine nearest?_eq_of_lt_first hden he hfirst (by omega) ?_
    have hq : 2 * ((x.units : ℚ) * den) < 2 * num + den * twoPow e := by
      have hmargin : x.margin = twoPow e / 2 := by
        have htwo : (twoPow x.exponent : ℚ) = 2 * twoPow e := by
          rw [he]
          exact_mod_cast (Nat.pow_succ' : 2 ^ (e + 1) = 2 * 2 ^ e)
        rw [margin, if_pos ⟨hexponent, hfirst⟩, htwo]
        ring
      have := (abs_lt.mp (hmargin ▸ h)).1
      rw [hnum]
      nlinarith
    exact_mod_cast hq

end Binary64

end LinkWatch
