/-
# Scaling by a power of ten

A numeral is read as its significand, scaled by one power of ten: the significand and the power are
rounded, and so is their product or quotient; a number below the smallest power is divided twice.
Each rounding errs by half a unit in the last place, so that a decimal of at most eighteen digits
that is rounded to a number is scaled to one that is at most five units in the last place away from
it (`exists_scale?_near`), and to the number itself where the significand and the power of ten need no
rounding.
-/
import LinkWatch.Json.Token
import LinkWatch.Proofs.Number.Shortest

namespace LinkWatch

namespace Binary64

open Decimal (inUnits)

variable {w q c : ℚ} {x y : Binary64} {num den n : ℕ}

/-! ## Errors one after the other -/

/-- The magnitude `w` is off from `q` by at most `c` roundings of `q`. -/
def Off (c w q : ℚ) : Prop := |w - q| ≤ c * (max q (2 ^ 52) / 2 ^ 53)

lemma off_of_le (hc : 0 ≤ c) (h : |w - q| ≤ c * (q / 2 ^ 53)) : Off c w q :=
  h.trans (mul_le_mul_of_nonneg_left
    (div_le_div_of_nonneg_right (le_max_left _ _) (by norm_num)) hc)

lemma Off.mono {c' : ℚ} (h : Off c w q) (hc : c ≤ c') : Off c' w q :=
  h.trans (mul_le_mul_of_nonneg_right hc
    (div_nonneg (le_max_of_le_right (by norm_num)) (by norm_num)))

/-- An exact quotient is off by no more than what is divided. -/
lemma Off.div {m : ℚ} (h : Off c w q) (hc : 0 ≤ c) (hm : 1 ≤ m) : Off c (w / m) (q / m) := by
  have hpos : 0 < m := lt_of_lt_of_le one_pos hm
  unfold Off at h ⊢
  rw [← sub_div, abs_div, abs_of_pos hpos, div_le_iff₀ hpos]
  refine h.trans ?_
  rw [mul_assoc, div_mul_eq_mul_div]
  refine mul_le_mul_of_nonneg_left (div_le_div_of_nonneg_right ?_ (by norm_num)) hc
  refine max_le ?_ ?_
  · calc q = q / m * m := by field_simp
      _ ≤ max (q / m) (2 ^ 52) * m := mul_le_mul_of_nonneg_right (le_max_left _ _) hpos.le
  · calc (2 : ℚ) ^ 52 ≤ 2 ^ 52 * m := le_mul_of_one_le_right (by norm_num) hm
      _ ≤ max (q / m) (2 ^ 52) * m := mul_le_mul_of_nonneg_right (le_max_right _ _) hpos.le

/-- Another rounding adds little more than one to the number of roundings. -/
lemma Off.round (h : Off c w q) (hc : c ≤ 4) (hden : 0 < den) (hw : (num / den : ℚ) = w)
    (hy : nearest? false num den = some y) : Off (c + 101 / 100) y.units q := by
  have hround := abs_units_sub_le hden hy
  rw [hw] at hround
  unfold Off at h ⊢
  have hq : q ≤ max q (2 ^ 52) := le_max_left _ _
  have h52 : 2 ^ 52 ≤ max q (2 ^ 52) := le_max_right _ _
  generalize max q (2 ^ 52) = m at h hq h52 ⊢
  have hwm : max w (2 ^ 52) ≤ 101 / 100 * m := by
    refine max_le ?_ (by linarith)
    have := (abs_le.mp h).2
    have hcm : c * (m / 2 ^ 53) ≤ 4 * (m / 2 ^ 53) :=
      mul_le_mul_of_nonneg_right hc (by linarith)
    linarith
  calc |(y.units : ℚ) - q| ≤ |(y.units : ℚ) - w| + |w - q| := abs_sub_le _ _ _
    _ ≤ 101 / 100 * m / 2 ^ 53 + c * (m / 2 ^ 53) :=
      add_le_add (hround.trans (by linarith)) h
    _ = (c + 101 / 100) * (m / 2 ^ 53) := by ring

/-- A quotient of two rounded numbers. -/
lemma off_div {s p unit a b : ℚ} (hs : 0 < s) (hp : 0 < p) (hunit : 0 < unit)
    (ha : |a - s * unit| ≤ s * unit / 2 ^ 53) (hb : |b - p * unit| ≤ p * unit / 2 ^ 53) :
    Off (201 / 100) (a * unit / b) (s * unit / p) := by
  have hsu := mul_pos hs hunit
  have hpu := mul_pos hp hunit
  have hbpos : 0 < b := by
    have := (abs_le.mp hb).1
    linarith
  refine off_of_le (by norm_num) ?_
  rw [div_sub_div _ _ hbpos.ne' hp.ne', abs_div, abs_of_pos (mul_pos hbpos hp),
    div_le_iff₀ (mul_pos hbpos hp)]
  calc |a * unit * p - b * (s * unit)|
      = |(a - s * unit) * (p * unit) - s * unit * (b - p * unit)| := by
        congr 1
        ring
    _ ≤ |(a - s * unit) * (p * unit)| + |s * unit * (b - p * unit)| := abs_sub _ _
    _ ≤ s * unit / 2 ^ 53 * (p * unit) + s * unit * (p * unit / 2 ^ 53) := by
        rw [abs_mul (a - _), abs_mul (s * unit), abs_of_pos hpu, abs_of_pos hsu]
        exact add_le_add (mul_le_mul_of_nonneg_right ha hpu.le)
          (mul_le_mul_of_nonneg_left hb hsu.le)
    _ = s * unit * (2 * (p * unit)) / 2 ^ 53 := by ring
    _ ≤ s * unit * (201 / 100 * b) / 2 ^ 53 := by
        have hlow := (abs_le.mp hb).1
        have hb' : 2 * (p * unit) ≤ 201 / 100 * b := by linarith
        exact div_le_div_of_nonneg_right (mul_le_mul_of_nonneg_left hb' hsu.le) (by norm_num)
    _ = 201 / 100 * (s * unit / p / 2 ^ 53) * (b * p) := by
        field_simp

/-- A product of two rounded numbers. -/
lemma off_mul {s p unit a b : ℚ} (hs : 0 < s) (hp : 0 < p) (hunit : 0 < unit)
    (ha : |a - s * unit| ≤ s * unit / 2 ^ 53) (hb : |b - p * unit| ≤ p * unit / 2 ^ 53) :
    Off (201 / 100) (a * b / unit) (s * p * unit) := by
  have hsu := mul_pos hs hunit
  have hpu := mul_pos hp hunit
  have hsub : a * b / unit - s * p * unit = (a * b - s * unit * (p * unit)) / unit := by
    field_simp
  have habs : |a| ≤ 1001 / 1000 * (s * unit) := by
    have := abs_le.mp ha
    rw [abs_le]
    constructor <;> linarith
  refine off_of_le (by norm_num) ?_
  rw [hsub, abs_div, abs_of_pos hunit, div_le_iff₀ hunit]
  calc |a * b - s * unit * (p * unit)|
      = |a * (b - p * unit) + (a - s * unit) * (p * unit)| := by
        congr 1
        ring
    _ ≤ |a * (b - p * unit)| + |(a - s * unit) * (p * unit)| := abs_add_le _ _
    _ ≤ 1001 / 1000 * (s * unit) * (p * unit / 2 ^ 53) + s * unit / 2 ^ 53 * (p * unit) := by
        rw [abs_mul a, abs_mul (a - _), abs_of_pos hpu]
        exact add_le_add (mul_le_mul habs hb (abs_nonneg _) (by linarith))
          (mul_le_mul_of_nonneg_right ha hpu.le)
    _ = 2001 / 1000 * (s * unit * (p * unit) / 2 ^ 53) := by ring
    _ ≤ 201 / 100 * (s * unit * (p * unit) / 2 ^ 53) :=
        mul_le_mul_of_nonneg_right (by norm_num)
          (div_nonneg (mul_pos hsu hpu).le (by norm_num))
    _ = 201 / 100 * (s * p * unit / 2 ^ 53) * unit := by ring

/-! ## The rounded significand and power -/

/-- Half a unit in the last place above a number is not beyond the middle above the largest. -/
lemma two_mul_units_add_le (x : Binary64) :
    2 * x.units + twoPow x.exponent ≤ 2 * overflow := by
  obtain ⟨k, hk, hlimit⟩ := exists_overflow_eq
  have hexponent := x.exponent_le
  have hpow : twoPow x.exponent ≤ 2 * twoPow k := by
    have hstep : twoPow (k + 1) = 2 * twoPow k := Nat.pow_succ'
    rw [← hstep]
    exact twoPow_le_twoPow (by omega)
  have hbits : 2 * x.significand + 1 ≤ twoPow 54 - 1 := by
    have := x.significand_lt
    have h54 : twoPow 54 = 2 * twoPow 53 := twoPow_add 1 53
    omega
  calc 2 * x.units + twoPow x.exponent = (2 * x.significand + 1) * twoPow x.exponent := by
        rw [units]
        ring
    _ ≤ (twoPow 54 - 1) * (2 * twoPow k) := Nat.mul_le_mul hbits hpow
    _ = 2 * overflow := by
        rw [hlimit]
        ring

lemma units_lt_overflow (x : Binary64) : x.units < overflow := by
  have := x.two_mul_units_add_le
  have := twoPow_pos x.exponent
  omega

lemma isZero_eq_false (h : 0 < x.units) : x.isZero = false := by
  rw [isZero, beq_eq_false_iff_ne]
  intro hzero
  rw [units, hzero, Nat.zero_mul] at h
  exact Nat.lt_irrefl _ h

/-- A whole number that is not too large is rounded with one rounding error. -/
lemma exists_ofNat?_near (hn : n ≠ 0) (hle : n ≤ tenPow 308) :
    ∃ a, ofNat? n = some a ∧ a.negative = false ∧
      |(a.units : ℚ) - n * unitsPerOne| ≤ n * unitsPerOne / 2 ^ 53 := by
  have hfits : n * unitsPerOne < 1 * overflow := by
    rw [Nat.one_mul]
    exact Nat.lt_of_le_of_lt (Nat.mul_le_mul_right _ hle) range_bounds.2.1
  obtain ⟨a, ha⟩ := exists_nearest?_eq_some false hfits
  have hround := abs_units_sub_le Nat.one_pos ha
  have hunit : twoPow 52 ≤ unitsPerOne := by
    obtain ⟨k, hk, hunit⟩ := exists_unitsPerOne_eq
    rw [hunit]
    exact twoPow_le_twoPow (by omega)
  have hlow : (2 ^ 52 : ℚ) ≤ n * unitsPerOne := by
    have : twoPow 52 ≤ n * unitsPerOne :=
      Nat.le_trans hunit (Nat.le_mul_of_pos_left _ (Nat.pos_of_ne_zero hn))
    exact_mod_cast this
  push_cast at hround
  rw [div_one, max_eq_left hlow] at hround
  exact ⟨a, ha, (units_of_nearest? ha).1, hround⟩

/-- Two or more is rounded to one at least. -/
lemma unitsPerOne_le_of_near {a : Binary64} (hn : 2 ≤ n)
    (ha : |(a.units : ℚ) - n * unitsPerOne| ≤ n * unitsPerOne / 2 ^ 53) :
    unitsPerOne ≤ a.units := by
  have hlow := (abs_le.mp ha).1
  have htwo : 2 * (unitsPerOne : ℚ) ≤ n * unitsPerOne := by
    exact_mod_cast Nat.mul_le_mul_right unitsPerOne hn
  have h : (unitsPerOne : ℚ) ≤ a.units := by linarith
  exact_mod_cast h

/-- A small power of ten needs no rounding. -/
lemma exists_ofNat?_tenPow {k : ℕ} (hk : k ≤ 22) :
    ∃ a, ofNat? (tenPow k) = some a ∧ a.negative = false ∧ a.units = tenPow k * unitsPerOne := by
  have htable : ∀ k < 23, (ofNat? (tenPow k)).map (fun a => (a.negative, a.units)) =
      some (false, tenPow k * unitsPerOne) := by decide +kernel
  obtain ⟨a, ha, hvalue⟩ := Option.map_eq_some_iff.mp (htable k (by omega))
  obtain ⟨hneg, hunits⟩ := Prod.mk.inj hvalue
  exact ⟨a, ha, hneg, hunits⟩

/-- A quotient by one at least is not too large. -/
lemma exists_div?_eq_some {a b : Binary64} (ha : a.negative = false) (hb : b.negative = false)
    (hone : unitsPerOne ≤ b.units) :
    ∃ y, a.div? b = some y ∧ nearest? false (a.units * unitsPerOne) b.units = some y := by
  have hfits : a.units * unitsPerOne < b.units * overflow := by
    calc a.units * unitsPerOne < overflow * unitsPerOne :=
          Nat.mul_lt_mul_of_pos_right a.units_lt_overflow unitsPerOne_pos
      _ ≤ overflow * b.units := Nat.mul_le_mul_left _ hone
      _ = b.units * overflow := Nat.mul_comm _ _
  obtain ⟨y, hy⟩ := exists_nearest?_eq_some false hfits
  refine ⟨y, ?_, hy⟩
  rw [div?, ha, hb]
  exact hy

end Binary64

namespace Json

open Decimal (inUnits)
open Binary64 (unitsPerOne unitsPerOne_pos unitsPerOne_posq)

variable {c k : ℕ}

/-! ## Which operations are made -/

/-- A power of ten below one that is not too small is divided by at once. -/
lemma scale?_neg (c : ℕ) {k : ℕ} (hk : 0 < k) (hle : k ≤ maxPower) :
    scale? c (-k) =
      (Binary64.ofNat? c).bind fun x => (Binary64.ofNat? (tenPow k)).bind x.div? := by
  have hneg : (-k : ℤ) < 0 := by omega
  have hsize : (-k : ℤ).natAbs = k := by omega
  have hblocks : (k - 1) / maxPower = 0 := Nat.div_eq_of_lt (by rw [maxPower] at *; omega)
  simp only [scale?, bind, if_pos hneg, hsize, hblocks, Nat.zero_mul, Nat.sub_zero, divideByPowers]

/-- A smaller one is divided by in two steps. -/
lemma scale?_neg_twice (c : ℕ) {k : ℕ} (hk : maxPower < k) (hle : k ≤ 2 * maxPower) :
    scale? c (-k) =
      (Binary64.ofNat? c).bind fun x => if x.isZero then some x else
        (Binary64.ofNat? (tenPow maxPower)).bind fun p => (x.div? p).bind fun z =>
          (Binary64.ofNat? (tenPow (k - maxPower))).bind z.div? := by
  have hneg : (-k : ℤ) < 0 := by omega
  have hsize : (-k : ℤ).natAbs = k := by omega
  have hblocks : (k - 1) / maxPower = 1 :=
    Nat.div_eq_of_lt_le (by omega) (by rw [maxPower] at *; omega)
  simp only [scale?, bind, if_pos hneg, hsize, hblocks, Nat.one_mul, divideByPowers]

/-- A power of ten that is not too large is multiplied by. -/
lemma scale?_nonneg (c : ℕ) {k : ℕ} (hle : k ≤ maxPower) :
    scale? c k =
      (Binary64.ofNat? c).bind fun x => (Binary64.ofNat? (tenPow k)).bind x.mul? := by
  have hneg : ¬ ((k : ℤ) < 0) := by omega
  have hle' : (k : ℤ) ≤ maxPower := by omega
  simp only [scale?, bind, if_neg hneg, if_pos hle', Int.toNat_natCast]

/-! ## How near the result is -/

open Binary64 (Off)

lemma inUnits_neg (s k : ℕ) : inUnits s (-k) = s * unitsPerOne / tenPow k := by
  rw [inUnits, zpow_neg, zpow_natCast, Decimal.cast_tenPow]
  ring

lemma inUnits_natCast (s k : ℕ) : inUnits s k = s * tenPow k * unitsPerOne := by
  rw [inUnits, zpow_natCast, Decimal.cast_tenPow]

lemma tenPow_le_tenPow {m n : ℕ} (h : m ≤ n) : tenPow m ≤ tenPow n :=
  Nat.pow_le_pow_right (by decide) h

lemma tenPow_add (m n : ℕ) : tenPow (m + n) = tenPow m * tenPow n := Nat.pow_add 10 m n

lemma two_le_tenPow {n : ℕ} (h : 0 < n) : 2 ≤ tenPow n :=
  Nat.le_trans (by decide) (tenPow_le_tenPow h)

/-- The significand and the power are rounded, and so is their quotient. -/
lemma exists_quotient {s : ℕ} (hs : s ≠ 0) (hle : s ≤ tenPow 308) (hk : 0 < k)
    (hpower : k ≤ maxPower) :
    ∃ a p z, Binary64.ofNat? s = some a ∧ Binary64.ofNat? (tenPow k) = some p ∧
      a.div? p = some z ∧ z.negative = false ∧ a.isZero = false ∧
      Off (302 / 100) z.units (inUnits s (-k)) := by
  obtain ⟨a, ha, hasign, hnear⟩ := Binary64.exists_ofNat?_near hs hle
  obtain ⟨p, hp, hpsign, hpnear⟩ := Binary64.exists_ofNat?_near
    (Nat.ne_of_gt (Nat.pow_pos (by decide))) (tenPow_le_tenPow hpower)
  have hone := Binary64.unitsPerOne_le_of_near (two_le_tenPow hk) hpnear
  obtain ⟨z, hz, hround⟩ := Binary64.exists_div?_eq_some hasign hpsign hone
  have hsq : (0 : ℚ) < s := by exact_mod_cast Nat.pos_of_ne_zero hs
  have hpq : (0 : ℚ) < tenPow k := by exact_mod_cast Nat.pow_pos (n := k) (by decide : 0 < 10)
  have hunit := unitsPerOne_posq
  have hoff := Binary64.off_div hsq hpq hunit hnear hpnear
  rw [← inUnits_neg] at hoff
  have hzero : a.isZero = false := by
    refine Binary64.isZero_eq_false ?_
    have hlow := (abs_le.mp hnear).1
    have hpos := mul_pos hsq hunit
    have hunits : (0 : ℚ) < a.units := by linarith
    exact_mod_cast hunits
  have hnum : (((a.units * unitsPerOne : ℕ) : ℚ) / p.units) = a.units * unitsPerOne / p.units := by
    push_cast
    rfl
  have hz' := hoff.round (by norm_num) (Nat.lt_of_lt_of_le unitsPerOne_pos hone) hnum hround
  norm_num at hz'
  exact ⟨a, p, z, ha, hp, hz, (Binary64.units_of_nearest? hround).1, hzero, by norm_num; exact hz'⟩

/-- Scaling by a power of ten below one takes three roundings, or four if it takes two steps. -/
lemma exists_scale?_neg {s : ℕ} (hs : s ≠ 0) (hle : s ≤ tenPow 308) (hk : 0 < k)
    (hpower : k ≤ maxPower + 22) :
    ∃ y, scale? s (-k) = some y ∧ y.negative = false ∧
      Off (9 / 2) y.units (inUnits s (-k)) := by
  rcases Nat.lt_or_ge maxPower k with htwice | honce
  · obtain ⟨a, p, z, ha, hp, hz, hzsign, hzero, hoff⟩ :=
      exists_quotient hs hle (k := maxPower) (by decide) (Nat.le_refl _)
    obtain ⟨b, hb, hbsign, hbunits⟩ := Binary64.exists_ofNat?_tenPow (k := k - maxPower) (by omega)
    have hone : unitsPerOne ≤ b.units := by
      rw [hbunits]
      exact Nat.le_mul_of_pos_left _ (Nat.pow_pos (by decide))
    obtain ⟨y, hy, hround⟩ := Binary64.exists_div?_eq_some hzsign hbsign hone
    refine ⟨y, ?_, (Binary64.units_of_nearest? hround).1, ?_⟩
    · rw [scale?_neg_twice s htwice (by rw [maxPower] at *; omega), ha, Option.bind_some, hzero,
        if_neg Bool.false_ne_true, hp, Option.bind_some, hz, Option.bind_some, hb, Option.bind_some,
        hy]
    · -- the second power divides the first error as well
      have hten : (1 : ℚ) ≤ tenPow (k - maxPower) := by
        exact_mod_cast Nat.pow_pos (n := k - maxPower) (by decide : 0 < 10)
      have hsplit : inUnits s (-k) = inUnits s (-maxPower) / tenPow (k - maxPower) := by
        have hpow : tenPow k = tenPow maxPower * tenPow (k - maxPower) := by
          rw [← tenPow_add, Nat.add_sub_cancel' htwice.le]
        rw [inUnits_neg, inUnits_neg, hpow, Nat.cast_mul, div_div]
      have hnum : (((z.units * unitsPerOne : ℕ) : ℚ) / b.units) =
          z.units / tenPow (k - maxPower) := by
        have hunit := unitsPerOne_posq
        rw [hbunits, Nat.cast_mul, Nat.cast_mul, mul_div_mul_right _ _ hunit.ne']
      rw [hsplit]
      exact ((hoff.div (by norm_num) hten).round (by norm_num)
        (Nat.lt_of_lt_of_le unitsPerOne_pos hone) hnum hround).mono (by norm_num)
  · obtain ⟨a, p, y, ha, hp, hy, hsign, -, hoff⟩ := exists_quotient hs hle hk honce
    refine ⟨y, by rw [scale?_neg s hk honce, ha, Option.bind_some, hp, Option.bind_some, hy],
      hsign, ?_⟩
    exact hoff.mono (by norm_num)

/-! ### Products -/

/-- The largest significand of up to eighteen digits with which the product with a power of ten is
not too large. The one for the 292nd power is less by one than the others would suggest, because
that power is rounded upward. -/
def maxSignificand (k : ℕ) : ℕ :=
  if k = 292 then 17976931348623157
  else min (tenPow 17) ((twoPow 54 - 1) * twoPow 970 / tenPow k)

/-- The products of the rounded numbers are not too large; and the first of these significands are
what they should be. -/
lemma maxSignificand_table :
    (∀ i < 18, ∀ a ∈ Binary64.ofNat? (maxSignificand (291 + i)),
      ∀ p ∈ Binary64.ofNat? (tenPow (291 + i)),
        a.units * p.units < unitsPerOne * Binary64.overflow) ∧
    maxSignificand 291 = tenPow 17 ∧
    (twoPow 54 - 1) * twoPow 970 / tenPow 292 = 17976931348623158 := by
  decide +kernel

/-- A decimal that is not too large has such a significand, but for one decimal. -/
lemma le_maxSignificand {s : ℕ} (hle : s ≤ tenPow 17)
    (hfits : s * tenPow k * unitsPerOne ≤ Binary64.overflow)
    (hne : ¬ (s = 17976931348623158 ∧ k = 292)) : s ≤ maxSignificand (max k 291) := by
  have hoverflow : Binary64.overflow = (twoPow 54 - 1) * twoPow 970 * unitsPerOne := by
    obtain ⟨m, hm, hlimit⟩ := Binary64.exists_overflow_eq
    obtain ⟨n, hn, hunit⟩ := Binary64.exists_unitsPerOne_eq
    have hsum : m = 970 + n := by omega
    rw [hlimit, hunit, hsum, twoPow_add, Nat.mul_assoc]
  have hquotient : s ≤ (twoPow 54 - 1) * twoPow 970 / tenPow k := by
    have hpos : 0 < tenPow k := Nat.pow_pos (by decide)
    rw [Nat.le_div_iff_mul_le hpos]
    rw [hoverflow] at hfits
    exact Nat.le_of_mul_le_mul_right hfits unitsPerOne_pos
  rcases Nat.lt_or_ge k 292 with hk | hk
  · have hmax : max k 291 = 291 := by omega
    rw [hmax, maxSignificand_table.2.1]
    exact hle
  · rw [Nat.max_eq_left (by omega), maxSignificand]
    by_cases h292 : k = 292
    · subst h292
      rw [maxSignificand_table.2.2] at hquotient
      rw [if_pos rfl]
      omega
    · rw [if_neg h292]
      exact Nat.le_min.mpr ⟨hle, hquotient⟩

/-- A larger whole number is rounded to a larger number. -/
lemma units_ofNat?_le {m n : ℕ} {a b : Binary64} (h : m ≤ n) (ha : Binary64.ofNat? m = some a)
    (hb : Binary64.ofNat? n = some b) : a.units ≤ b.units :=
  Binary64.units_le_units Nat.one_pos Nat.one_pos
    (Nat.mul_le_mul_right _ (Nat.mul_le_mul_right _ h)) ha hb

/-- Scaling by a power of ten from one upward takes three roundings. -/
lemma exists_scale?_natCast {s : ℕ} (hs : s ≠ 0) (hle : s ≤ tenPow 17) (hpower : k ≤ maxPower)
    (hfits : s * tenPow k * unitsPerOne ≤ Binary64.overflow)
    (hne : ¬ (s = 17976931348623158 ∧ k = 292)) :
    ∃ y, scale? s k = some y ∧ y.negative = false ∧ Off (9 / 2) y.units (inUnits s k) := by
  have htenPow : ∀ n, tenPow n ≠ 0 := fun n => Nat.ne_of_gt (Nat.pow_pos (by decide))
  have hrow : maxSignificand (max k 291) ≠ 0 ∧ maxSignificand (max k 291) ≤ tenPow 308 := by
    have hge := le_maxSignificand hle hfits hne
    refine ⟨by omega, ?_⟩
    unfold maxSignificand
    split
    · exact Nat.le_trans (by decide : 17976931348623157 ≤ tenPow 17) (tenPow_le_tenPow (by decide))
    · exact Nat.le_trans (Nat.min_le_left _ _) (tenPow_le_tenPow (by decide))
  obtain ⟨a, ha, hasign, hnear⟩ := Binary64.exists_ofNat?_near hs
    (Nat.le_trans hle (tenPow_le_tenPow (by decide)))
  obtain ⟨p, hp, hpsign, hpnear⟩ := Binary64.exists_ofNat?_near (htenPow k)
    (tenPow_le_tenPow hpower)
  obtain ⟨a', ha', -⟩ := Binary64.exists_ofNat?_near hrow.1 hrow.2
  obtain ⟨p', hp', -⟩ := Binary64.exists_ofNat?_near (htenPow (max k 291))
    (tenPow_le_tenPow (by rw [maxPower] at hpower; omega))
  have hfits' : a.units * p.units < unitsPerOne * Binary64.overflow := by
    refine Nat.lt_of_le_of_lt (Nat.mul_le_mul
      (units_ofNat?_le (le_maxSignificand hle hfits hne) ha ha')
      (units_ofNat?_le (tenPow_le_tenPow (Nat.le_max_left k 291)) hp hp')) ?_
    obtain ⟨i, hi, hmax⟩ : ∃ i < 18, max k 291 = 291 + i :=
      ⟨max k 291 - 291, by rw [maxPower] at hpower; omega, by omega⟩
    rw [hmax] at ha' hp'
    exact maxSignificand_table.1 i hi a' ha' p' hp'
  obtain ⟨y, hround⟩ := Binary64.exists_nearest?_eq_some false hfits'
  have hy : a.mul? p = some y := by
    rw [Binary64.mul?, hasign, hpsign]
    exact hround
  refine ⟨y, by rw [scale?_nonneg s hpower, ha, Option.bind_some, hp, Option.bind_some, hy],
    (Binary64.units_of_nearest? hround).1, ?_⟩
  have hsq : (0 : ℚ) < s := by exact_mod_cast Nat.pos_of_ne_zero hs
  have hpq : (0 : ℚ) < tenPow k := by exact_mod_cast Nat.pos_of_ne_zero (htenPow k)
  have hoff := Binary64.off_mul hsq hpq unitsPerOne_posq hnear hpnear
  rw [← inUnits_natCast] at hoff
  exact (hoff.round (by norm_num) unitsPerOne_pos (by push_cast; rfl) hround).mono (by norm_num)

/-! ## Decimals that are rounded to a number -/

/-- The number with the sign that a numeral has. -/
def signed (negative : Bool) (y : Binary64) : Binary64 := if negative then y.neg else y

variable {x : Binary64} {s : ℕ} {e : ℤ}

/-- A magnitude that is rounded to a number is rounded to it before the sign is put on. -/
lemma exists_nearest?_false {q : ℚ} {num den : ℕ} (hx : x.Receives q) (hden : 0 < den)
    (hq : (num / den : ℚ) = q) :
    ∃ y, Binary64.nearest? false num den = some y ∧ y.negative = false ∧
      signed x.negative y = x := by
  have h := hx.nearest? hden hq
  rw [Binary64.nearest?_eq_map] at h
  obtain ⟨y, hy, hself⟩ := Option.map_eq_some_iff.mp h
  exact ⟨y, hy, (Binary64.units_of_nearest? hy).1, hself⟩

/-- **A decimal whose significand and power need no rounding is scaled to the number that it is
rounded to.** -/
lemma exists_scale?_exact (hx : x.Receives (inUnits s e)) (hs : s < twoPow 53)
    (he : e.natAbs ≤ 22) :
    ∃ y, scale? s e = some y ∧ y.negative = false ∧ signed x.negative y = x := by
  obtain ⟨a, ha, hasign, haunits⟩ := Binary64.ofNat?_eq_some hs
  have hunit := unitsPerOne_posq
  rcases lt_or_ge e 0 with hneg | hpos
  · obtain ⟨k, hk, rfl⟩ : ∃ k : ℕ, 0 < k ∧ e = -k := ⟨e.natAbs, by omega, by omega⟩
    obtain ⟨p, hp, hpsign, hpunits⟩ := Binary64.exists_ofNat?_tenPow (k := k) (by omega)
    have hden : 0 < p.units := by
      rw [hpunits]
      exact Nat.mul_pos (Nat.pow_pos (by decide)) unitsPerOne_pos
    have hq : (((a.units * unitsPerOne : ℕ) : ℚ) / p.units) = inUnits s (-k) := by
      have hten : (tenPow k : ℚ) ≠ 0 := by
        exact_mod_cast Nat.ne_of_gt (Nat.pow_pos (n := k) (by decide : 0 < 10))
      rw [haunits, hpunits, inUnits_neg]
      push_cast
      field_simp
    obtain ⟨y, hy, hsign⟩ := exists_nearest?_false hx hden hq
    refine ⟨y, ?_, hsign⟩
    rw [scale?_neg s hk (by rw [maxPower]; omega), ha, Option.bind_some, hp, Option.bind_some,
      Binary64.div?, hasign, hpsign]
    exact hy
  · obtain ⟨k, rfl⟩ := Int.eq_ofNat_of_zero_le hpos
    obtain ⟨p, hp, hpsign, hpunits⟩ := Binary64.exists_ofNat?_tenPow (k := k) (by omega)
    have hq : (((a.units * p.units : ℕ) : ℚ) / unitsPerOne) = inUnits s k := by
      rw [haunits, hpunits, inUnits_natCast]
      push_cast
      field_simp
    obtain ⟨y, hy, hsign⟩ := exists_nearest?_false hx unitsPerOne_pos hq
    refine ⟨y, ?_, hsign⟩
    rw [scale?_nonneg s (by rw [maxPower]; omega), ha, Option.bind_some, hp, Option.bind_some,
      Binary64.mul?, hasign, hpsign]
    exact hy

/-- Four and a half roundings of a decimal that is rounded to a number, and half a unit between the
two, are five units in the last place. -/
lemma abs_units_sub_le_five {y : Binary64} {q : ℚ} (hx : x.Receives q)
    (hoff : Off (9 / 2) y.units q) :
    |(y.units : ℚ) - x.units| ≤ 5 * twoPow x.exponent := by
  have hnear := hx.abs_sub_le
  have hlast : (1 : ℚ) ≤ twoPow x.exponent := by exact_mod_cast twoPow_pos _
  have hbits : (x.units : ℚ) + twoPow x.exponent ≤ 2 ^ 53 * twoPow x.exponent := by
    have h := x.units_add_le
    have h53 : ((twoPow 53 : ℕ) : ℚ) = 2 ^ 53 := by norm_num [twoPow]
    have h' : (x.units : ℚ) + twoPow x.exponent ≤ (twoPow 53 : ℕ) * twoPow x.exponent := by
      exact_mod_cast h
    rwa [h53] at h'
  have hmax : max q (2 ^ 52) ≤ 2 ^ 53 * twoPow x.exponent := by
    have := (abs_le.mp hnear).1
    exact max_le (by linarith) (by linarith)
  unfold Off at hoff
  calc |(y.units : ℚ) - x.units| ≤ |(y.units : ℚ) - q| + |q - x.units| := abs_sub_le _ _ _
    _ ≤ 9 / 2 * (2 ^ 53 * twoPow x.exponent / 2 ^ 53) + twoPow x.exponent / 2 := by
        refine add_le_add (hoff.trans ?_) (by rwa [abs_sub_comm])
        exact mul_le_mul_of_nonneg_left (div_le_div_of_nonneg_right hmax (by norm_num))
          (by norm_num)
    _ = 5 * twoPow x.exponent := by ring

/-- **A decimal that is rounded to a number is scaled to one that is at most five units in the last
place away**, whatever power of ten it has. -/
theorem exists_scale?_near (hx : x.Receives (inUnits s e)) (hs : s ≠ 0) (hle : s ≤ tenPow 17)
    (hlow : -324 ≤ e) (hhigh : e ≤ 308) (hne : ¬ (s = 17976931348623158 ∧ e = 292)) :
    ∃ y, scale? s e = some y ∧ y.negative = false ∧
      |(y.units : ℚ) - x.units| ≤ 5 * twoPow x.exponent := by
  have hle' : s ≤ tenPow 308 := Nat.le_trans hle (tenPow_le_tenPow (by decide))
  rcases lt_or_ge e 0 with hneg | hpos
  · obtain ⟨k, hk, rfl⟩ : ∃ k : ℕ, 0 < k ∧ e = -k := ⟨e.natAbs, by omega, by omega⟩
    obtain ⟨y, hy, hsign, hoff⟩ := exists_scale?_neg hs hle' hk (by rw [maxPower]; omega)
    exact ⟨y, hy, hsign, abs_units_sub_le_five hx hoff⟩
  · obtain ⟨k, rfl⟩ := Int.eq_ofNat_of_zero_le hpos
    have hfits : s * tenPow k * unitsPerOne ≤ Binary64.overflow := by
      have hnear := (abs_le.mp hx.abs_sub_le).1
      have hmiddle : 2 * (x.units : ℚ) + twoPow x.exponent ≤ 2 * Binary64.overflow := by
        exact_mod_cast x.two_mul_units_add_le
      rw [inUnits_natCast] at hnear
      have h : (s : ℚ) * tenPow k * unitsPerOne ≤ Binary64.overflow := by linarith
      exact_mod_cast h
    obtain ⟨y, hy, hsign, hoff⟩ := exists_scale?_natCast hs hle (by rw [maxPower]; omega) hfits
      (by omega)
    exact ⟨y, hy, hsign, abs_units_sub_le_five hx hoff⟩

end Json

end LinkWatch
