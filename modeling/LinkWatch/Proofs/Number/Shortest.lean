/-
# The shortest digits are right

The shortest decimal form of a number is a decimal that is rounded to the number: the search for it
always ends before its seventeen grids are used up, because a grid that is finer than the distance
to the neighbours has a point that is rounded to the number.  The digits found are at most `10 ^ 17`,
and the power of ten is at least `10 ^ (-324)` and at most `10 ^ 308` (`exists_shortest_eq`).
-/
import LinkWatch.Number.Shortest
import LinkWatch.Proofs.Json.Numerals
import LinkWatch.Proofs.Number.Rounding
import Mathlib.Algebra.Order.Field.Power
import Mathlib.Data.Nat.Cast.Order.Field

namespace LinkWatch

/-! ## Decimal digits -/

namespace Decimal

lemma digitCount_of_lt {n : ℕ} (h : n < 10) : digitCount n = 1 := by
  rw [digitCount, Nat.toDigits_of_lt_base h, List.length_singleton]

lemma digitCount_of_le {n : ℕ} (h : 10 ≤ n) : digitCount n = digitCount (n / 10) + 1 := by
  rw [digitCount, Nat.toDigits_of_base_le (by decide) h, List.length_append, List.length_singleton,
    digitCount]

lemma digitCount_pos (n : ℕ) : 0 < digitCount n :=
  List.length_pos_iff.mpr Nat.toDigits_ne_nil

lemma lt_tenPow_digitCount (n : ℕ) : n < tenPow (digitCount n) := by
  induction n using Nat.strongRecOn with
  | ind n ih =>
    rcases Nat.lt_or_ge n 10 with hn | hn
    · rw [digitCount_of_lt hn]
      exact hn
    · rw [digitCount_of_le hn]
      have := ih (n / 10) (by omega)
      have hpow : tenPow (digitCount (n / 10) + 1) = 10 * tenPow (digitCount (n / 10)) :=
        Nat.pow_succ'
      omega

lemma tenPow_digitCount_le {n : ℕ} (h : n ≠ 0) : tenPow (digitCount n - 1) ≤ n := by
  induction n using Nat.strongRecOn with
  | ind n ih =>
    rcases Nat.lt_or_ge n 10 with hn | hn
    · rw [digitCount_of_lt hn]
      exact Nat.one_le_iff_ne_zero.mpr h
    · rw [digitCount_of_le hn, Nat.add_sub_cancel]
      have hle := ih (n / 10) (by omega) (by omega)
      obtain ⟨k, hk⟩ := Nat.exists_eq_succ_of_ne_zero (Nat.ne_of_gt (digitCount_pos (n / 10)))
      rw [hk] at hle ⊢
      have hpow : tenPow (k + 1) = 10 * tenPow k := Nat.pow_succ'
      have hpred : k.succ - 1 = k := rfl
      rw [hpred] at hle
      change tenPow (k + 1) ≤ n
      omega

/-- The digits of a number put it between two powers of ten. -/
lemma zpow_digitCount {n : ℕ} (h : n ≠ 0) :
    (10 : ℚ) ^ (digitCount n - 1 : ℤ) ≤ n ∧ (n : ℚ) < 10 ^ (digitCount n : ℤ) := by
  have hlow := tenPow_digitCount_le h
  have hhigh := lt_tenPow_digitCount n
  have hpos := digitCount_pos n
  have hpred : ((digitCount n : ℤ) - 1) = ((digitCount n - 1 : ℕ) : ℤ) := by omega
  rw [hpred, zpow_natCast, zpow_natCast]
  exact ⟨by exact_mod_cast hlow, by exact_mod_cast hhigh⟩

lemma cast_tenPow (n : ℕ) : ((tenPow n : ℕ) : ℚ) = 10 ^ n := by exact_mod_cast Nat.cast_pow 10 n

/-- The decimal `d * 10 ^ g`, in units. -/
def inUnits (d : ℕ) (g : ℤ) : ℚ := d * 10 ^ g * Binary64.unitsPerOne

end Decimal

namespace Binary64

open Decimal (digitCount inUnits)

variable {x : Binary64} {q : ℚ} {d : ℕ} {g : ℤ}

/-! ## Numbers that are rounded to a given one -/

/-- The magnitude `q`, in units, is rounded to `x`. -/
def Receives (x : Binary64) (q : ℚ) : Prop :=
  ∃ num den : ℕ, 0 < den ∧ (num / den : ℚ) = q ∧ nearest? x.negative num den = some x

/-- It does not matter as which fraction the magnitude is given. -/
lemma Receives.nearest? (h : x.Receives q) {num den : ℕ} (hden : 0 < den)
    (hq : (num / den : ℚ) = q) : nearest? x.negative num den = some x := by
  obtain ⟨num', den', hden', hq', hx⟩ := h
  rw [← hx]
  refine nearest?_congr x.negative hden hden' ?_
  have hcross := hq.trans hq'.symm
  rw [div_eq_div_iff (by exact_mod_cast hden.ne') (by exact_mod_cast hden'.ne')] at hcross
  exact_mod_cast hcross

lemma Receives.abs_sub_le (h : x.Receives q) : |(x.units : ℚ) - q| ≤ twoPow x.exponent / 2 := by
  obtain ⟨num, den, hden, rfl, hx⟩ := h
  exact abs_units_sub_le_half hden hx

lemma receives_of_abs_lt {num den : ℕ} (hden : 0 < den) (hq : (num / den : ℚ) = q)
    (h : |q - x.units| < x.margin) : x.Receives q :=
  ⟨num, den, hden, hq, nearest?_eq_some_self hden (hq ▸ h)⟩

/-! ## How large a number can be -/

lemma one_le_units (hx : x.isZero = false) : 1 ≤ x.units := by
  have hne : x.significand ≠ 0 := by simpa [isZero] using hx
  exact Nat.mul_pos (Nat.pos_of_ne_zero hne) (twoPow_pos _)

/-- The last place of a number is at most the number. -/
lemma twoPow_exponent_le (hx : x.isZero = false) : twoPow x.exponent ≤ x.units := by
  have hne : x.significand ≠ 0 := by simpa [isZero] using hx
  exact Nat.le_mul_of_pos_left _ (Nat.pos_of_ne_zero hne)

lemma units_add_le (x : Binary64) : x.units + twoPow x.exponent ≤ twoPow 53 * twoPow x.exponent := by
  rw [units, ← Nat.succ_mul]
  exact Nat.mul_le_mul_right _ x.significand_lt

lemma margin_pos (x : Binary64) : 0 < x.margin := by
  have hpos : (0 : ℚ) < twoPow x.exponent := by exact_mod_cast twoPow_pos _
  unfold margin
  split <;> linarith

/-- The neighbours of a number are a unit away at least. -/
lemma half_le_margin (x : Binary64) : 1 / 2 ≤ x.margin := by
  unfold margin
  split
  next h =>
    obtain ⟨e, he⟩ := Nat.exists_eq_succ_of_ne_zero h.1
    have htwo : (twoPow x.exponent : ℚ) = 2 * twoPow e := by
      rw [he]
      exact_mod_cast (Nat.pow_succ' : 2 ^ (e + 1) = 2 * 2 ^ e)
    have hpos : (1 : ℚ) ≤ twoPow e := by exact_mod_cast twoPow_pos e
    linarith
  · have hpos : (1 : ℚ) ≤ twoPow x.exponent := by exact_mod_cast twoPow_pos x.exponent
    linarith

/-- The first power of two that no number of the format reaches, in units. -/
def ceiling : ℕ := twoPow 2098

lemma units_add_le_ceiling (x : Binary64) : x.units + twoPow x.exponent ≤ ceiling := by
  -- the power is too large to be computed
  obtain ⟨k, hk, hceiling⟩ : ∃ k, k = 2098 ∧ ceiling = twoPow k := by
    unfold ceiling
    generalize 2098 = k
    exact ⟨k, rfl, rfl⟩
  have hexponent := x.exponent_le
  rw [hceiling]
  refine Nat.le_trans x.units_add_le ?_
  rw [← twoPow_add]
  exact twoPow_le_twoPow (by omega)

/-- A magnitude within the margin of a number is not too small, and not too large. -/
lemma bounds_of_abs_lt (hx : x.isZero = false) (h : |q - x.units| < x.margin) :
    1 / 2 < q ∧ q < ceiling := by
  obtain ⟨hlow, hhigh⟩ := abs_lt.mp (lt_of_lt_of_le h x.margin_le)
  have hone : (1 : ℚ) ≤ x.units := by exact_mod_cast one_le_units hx
  have hlast : (twoPow x.exponent : ℚ) ≤ x.units := by exact_mod_cast twoPow_exponent_le hx
  have hlarge : (x.units : ℚ) + twoPow x.exponent ≤ ceiling := by
    exact_mod_cast x.units_add_le_ceiling
  have hpos : (0 : ℚ) < twoPow x.exponent := by exact_mod_cast twoPow_pos _
  constructor <;> linarith

/-! ## Powers of ten beside the format -/

/-- The powers of ten on either side of the numbers of the format. -/
lemma range_bounds :
    4 * unitsPerOne ≤ tenPow 324 ∧ tenPow 308 * unitsPerOne < overflow ∧
      ∃ n, n = 309 ∧ ceiling ≤ tenPow n * unitsPerOne := by
  have h : 4 * unitsPerOne ≤ tenPow 324 ∧ tenPow 308 * unitsPerOne < overflow ∧
      ceiling ≤ tenPow 309 * unitsPerOne := by decide +kernel
  exact ⟨h.1, h.2.1, 309, rfl, h.2.2⟩

lemma unitsPerOne_posq : (0 : ℚ) < unitsPerOne := by exact_mod_cast unitsPerOne_pos

lemma zpow_eq_mul_pow (k : ℤ) (n : ℕ) : (10 : ℚ) ^ k = 10 ^ (k - n) * 10 ^ n := by
  rw [← zpow_natCast, ← zpow_add₀ (by norm_num), sub_add_cancel]

/-- A power of ten below the format is at most a quarter of a unit. -/
lemma zpow_mul_le {k : ℤ} (hk : k ≤ -324) : 10 ^ k * (unitsPerOne : ℚ) ≤ 1 / 4 := by
  have hsmall : (10 : ℚ) ^ k ≤ 10 ^ (-(324 : ℕ) : ℤ) :=
    zpow_le_zpow_right₀ (by norm_num) (by omega)
  have hunit : 4 * (unitsPerOne : ℚ) ≤ 10 ^ 324 := by
    rw [← Decimal.cast_tenPow]
    exact_mod_cast range_bounds.1
  have hpos : (0 : ℚ) < 10 ^ k := zpow_pos (by norm_num) k
  have hone : (10 : ℚ) ^ (-(324 : ℕ) : ℤ) * 10 ^ 324 = 1 := by
    rw [← zpow_natCast, ← zpow_add₀ (by norm_num), neg_add_cancel, zpow_zero]
  have hquarter := mul_le_mul hsmall hunit (by have := unitsPerOne_posq; linarith)
    (zpow_pos (by norm_num) _).le
  rw [hone] at hquarter
  linarith

/-- A decimal of more than half a unit has a digit up to the 324th place. -/
lemma neg_324_lt_of_lt {k : ℤ} (h : 1 / 2 < 10 ^ k * (unitsPerOne : ℚ)) : -324 < k := by
  by_contra hk
  have := zpow_mul_le (not_lt.mp hk)
  linarith

/-- No number of the format reaches `10 ^ 309`. -/
lemma le_308_of_lt {k : ℤ} (h : 10 ^ k * (unitsPerOne : ℚ) < ceiling) : k ≤ 308 := by
  by_contra hk
  obtain ⟨n, hn, hlarge⟩ := range_bounds.2.2
  have hpow : (10 : ℚ) ^ (n : ℤ) ≤ 10 ^ k := zpow_le_zpow_right₀ (by norm_num) (by omega)
  have hlarge' : (ceiling : ℚ) ≤ 10 ^ n * unitsPerOne := by exact_mod_cast hlarge
  rw [zpow_natCast] at hpow
  have := mul_le_mul_of_nonneg_right hpow unitsPerOne_posq.le
  linarith

/-! ## Decimals as fractions -/

/-- The decimal `d * 10 ^ g`, in units, as a fraction. -/
def fraction (d : ℕ) (g : ℤ) : ℕ × ℕ :=
  if 0 ≤ g then (d * tenPow g.toNat * unitsPerOne, 1)
  else (d * unitsPerOne, tenPow (-g).toNat)

lemma fraction_den_pos (d : ℕ) (g : ℤ) : 0 < (fraction d g).2 := by
  unfold fraction
  split
  · exact Nat.one_pos
  · exact Nat.pow_pos (by decide)

lemma fraction_eq (d : ℕ) (g : ℤ) :
    ((fraction d g).1 / (fraction d g).2 : ℚ) = inUnits d g := by
  unfold fraction
  split
  next hg =>
    have hpow : (10 : ℚ) ^ g = 10 ^ g.toNat := by
      rw [← zpow_natCast, Int.toNat_of_nonneg hg]
    rw [inUnits, hpow]
    push_cast [Decimal.cast_tenPow]
    ring
  next hg =>
    have hpow : (10 : ℚ) ^ g = (10 ^ (-g).toNat)⁻¹ := by
      rw [← zpow_natCast, ← zpow_neg, Int.toNat_of_nonneg (by omega), neg_neg]
    rw [inUnits, hpow, Decimal.cast_tenPow]
    push_cast
    ring

/-- A decimal that is neither too small nor too large is rounded as a fraction. -/
lemma toBinary64?_eq_nearest? {negative : Bool} (hne : d ≠ 0) (hlow : -330 ≤ g + digitCount d)
    (hhigh : g + digitCount d ≤ 311) :
    Decimal.toBinary64? ⟨negative, d, g⟩ =
      nearest? negative (fraction d g).1 (fraction d g).2 := by
  have hsmall : ¬ (d = 0 ∨ g + digitCount d < -330) := by omega
  have hlarge : ¬ 311 < g + digitCount d := by omega
  rw [Decimal.toBinary64?]
  dsimp only
  rw [if_neg hsmall, if_neg hlarge, fraction]
  by_cases hg : 0 ≤ g
  · rw [if_pos hg, if_pos hg]
  · rw [if_neg hg, if_neg hg]

/-- A decimal within the margin of a number is rounded to the number. -/
lemma readsBack_of_abs_lt (hx : x.isZero = false) (h : |inUnits d g - x.units| < x.margin) :
    x.readsBack d g = true := by
  obtain ⟨hlow, hhigh⟩ := bounds_of_abs_lt hx h
  have hne : d ≠ 0 := by
    rintro rfl
    rw [inUnits, Nat.cast_zero, zero_mul, zero_mul] at hlow
    exact absurd hlow (by norm_num)
  obtain ⟨hdigits, hdigits'⟩ := Decimal.zpow_digitCount hne
  have hg : (0 : ℚ) < 10 ^ g * unitsPerOne := mul_pos (zpow_pos (by norm_num) _) unitsPerOne_posq
  have horder : -324 < g + digitCount d := by
    refine neg_324_lt_of_lt (lt_of_lt_of_le hlow ?_)
    rw [inUnits, zpow_add₀ (by norm_num), mul_assoc]
    have := mul_le_mul_of_nonneg_right hdigits'.le hg.le
    linarith
  have horder' : g + (digitCount d - 1) ≤ 308 := by
    refine le_308_of_lt (lt_of_le_of_lt ?_ hhigh)
    rw [inUnits, zpow_add₀ (by norm_num), mul_assoc]
    have := mul_le_mul_of_nonneg_right hdigits hg.le
    linarith
  have hreceives := receives_of_abs_lt (fraction_den_pos d g) (fraction_eq d g) h
  rw [readsBack, toBinary64?_eq_nearest? hne (by omega) (by omega),
    hreceives.nearest? (fraction_den_pos d g) (fraction_eq d g), beq_self_eq_true]

/-- A decimal that is read as a number, and not as zero, is rounded to it. -/
lemma receives_of_readsBack (hx : x.isZero = false) (h : x.readsBack d g = true) :
    x.Receives (inUnits d g) ∧ d ≠ 0 := by
  rw [readsBack, beq_iff_eq] at h
  have hzero : Decimal.toBinary64? ⟨x.negative, d, g⟩ ≠ some (zero x.negative) := by
    rw [h]
    intro hz
    rw [Option.some.inj hz] at hx
    cases hx
  by_cases hsmall : d = 0 ∨ g + digitCount d < -330
  · rw [Decimal.toBinary64?] at hzero
    dsimp only at hzero
    rw [if_pos hsmall] at hzero
    exact absurd rfl hzero
  · by_cases hlarge : 311 < g + digitCount d
    · rw [Decimal.toBinary64?] at h
      dsimp only at h
      rw [if_neg hsmall, if_pos hlarge] at h
      cases h
    · obtain ⟨hne, hlow⟩ := not_or.mp hsmall
      rw [toBinary64?_eq_nearest? hne (by omega) (by omega)] at h
      exact ⟨⟨_, _, fraction_den_pos d g, fraction_eq d g, h⟩, hne⟩

/-! ## The leading digit -/

lemma zpow_leadingExponent {num den : ℕ} (hnum : 0 < num) (hden : 0 < den) :
    (10 : ℚ) ^ leadingExponent num den ≤ num / den ∧
      (num / den : ℚ) < 10 ^ (leadingExponent num den + 1) := by
  have hnumq : (0 : ℚ) < num := by exact_mod_cast hnum
  have hdenq : (0 : ℚ) < den := by exact_mod_cast hden
  unfold leadingExponent
  by_cases hle : den ≤ num
  · rw [if_pos hle]
    have hne : num / den ≠ 0 := Nat.ne_of_gt (Nat.div_pos hle hden)
    obtain ⟨hlow, hhigh⟩ := Decimal.zpow_digitCount hne
    have hpow := Decimal.lt_tenPow_digitCount (num / den)
    constructor
    · exact le_trans hlow Nat.cast_div_le
    · rw [sub_add_cancel, zpow_natCast, div_lt_iff₀ hdenq]
      have hlt : num < tenPow (digitCount (num / den)) * den :=
        (Nat.div_lt_iff_lt_mul hden).mp hpow
      exact_mod_cast hlt
  · rw [if_neg hle]
    have hlt : num < den := Nat.not_le.mp hle
    have hne : (den - 1) / num ≠ 0 := Nat.ne_of_gt (Nat.div_pos (by omega) hnum)
    obtain ⟨hlow, -⟩ := Decimal.zpow_digitCount hne
    have hpow := Decimal.lt_tenPow_digitCount ((den - 1) / num)
    have hbelow : (den - 1) / num * num < den :=
      Nat.lt_of_le_of_lt (Nat.div_mul_le_self _ _) (by omega)
    have habove : den ≤ tenPow (digitCount ((den - 1) / num)) * num := by
      have := (Nat.div_lt_iff_lt_mul hnum).mp hpow
      omega
    generalize (den - 1) / num = q at hlow hbelow habove
    have hbelow' : (q * num : ℚ) < den := by exact_mod_cast hbelow
    have habove' : (den : ℚ) ≤ 10 ^ (digitCount q : ℤ) * num := by
      rw [zpow_natCast]
      exact_mod_cast habove
    constructor
    · rw [zpow_neg, inv_le_comm₀ (zpow_pos (by norm_num) _) (div_pos hnumq hdenq), inv_div,
        div_le_iff₀ hnumq]
      exact habove'
    · have hneg : -(digitCount q : ℤ) + 1 = -(digitCount q - 1) := by ring
      rw [hneg, zpow_neg, lt_inv_comm₀ (div_pos hnumq hdenq) (zpow_pos (by norm_num) _), inv_div,
        lt_div_iff₀ hnumq]
      exact lt_of_le_of_lt (mul_le_mul_of_nonneg_right hlow hnumq.le) hbelow'

/-! ## The search -/

lemma scaled_spec {num den : ℕ} (hden : 0 < den) (g : ℤ) :
    0 < (scaled num den g).2 ∧
      ((scaled num den g).1 / (scaled num den g).2 : ℚ) = num / den / 10 ^ g := by
  unfold scaled
  by_cases hg : 0 ≤ g
  · rw [if_pos hg]
    have hpow : (10 : ℚ) ^ g = 10 ^ g.toNat := by
      rw [← zpow_natCast, Int.toNat_of_nonneg hg]
    refine ⟨Nat.mul_pos hden (Nat.pow_pos (by decide)), ?_⟩
    rw [hpow, div_div]
    push_cast [Decimal.cast_tenPow]
    rfl
  · rw [if_neg hg]
    have hpow : (10 : ℚ) ^ g = (10 ^ (-g).toNat)⁻¹ := by
      rw [← zpow_natCast, ← zpow_neg, Int.toNat_of_nonneg (by omega), neg_neg]
    refine ⟨hden, ?_⟩
    rw [hpow]
    push_cast [Decimal.cast_tenPow]
    rw [div_inv_eq_mul]
    ring

/-- A grid that is finer than the way to the neighbours has a point that is rounded to the
number. -/
lemma exists_onGrid?_eq_some (hx : x.isZero = false)
    (hfine : 10 ^ g * (unitsPerOne : ℚ) < 2 * x.margin) : ∃ d, x.onGrid? g = some d := by
  obtain ⟨hden, hscaled⟩ := @scaled_spec x.units _ unitsPerOne_pos g
  unfold onGrid?
  generalize scaled x.units unitsPerOne g = fraction at hden hscaled
  obtain ⟨num, den⟩ := fraction
  dsimp only at hden hscaled ⊢
  have hg : (0 : ℚ) < 10 ^ g := zpow_pos (by norm_num) _
  have hdenq : (0 : ℚ) < den := by exact_mod_cast hden
  have hunit := unitsPerOne_posq
  have hreads : x.readsBack (roundHalfEven num den) g = true := by
    refine readsBack_of_abs_lt hx (lt_of_le_of_lt ?_ (show 10 ^ g * (unitsPerOne : ℚ) / 2 < x.margin
      by linarith))
    obtain ⟨hle, hge⟩ := roundHalfEven_near num hden
    have hnear : |(roundHalfEven num den : ℚ) - num / den| ≤ 1 / 2 := by
      have hle' : 2 * ((roundHalfEven num den : ℚ) * den) ≤ 2 * num + den := by exact_mod_cast hle
      have hge' : 2 * (num : ℚ) ≤ 2 * (roundHalfEven num den * den) + den := by exact_mod_cast hge
      have hnum : (num : ℚ) = num / den * den := by field_simp
      rw [hnum] at hle' hge'
      rw [abs_le]
      constructor <;> nlinarith
    have hunits : (x.units : ℚ) = num / den * (10 ^ g * unitsPerOne) := by
      rw [hscaled]
      field_simp
    rw [Decimal.inUnits, hunits, mul_assoc, ← sub_mul, abs_mul,
      abs_of_pos (mul_pos hg hunit)]
    have := mul_le_mul_of_nonneg_right hnear (mul_pos hg hunit).le
    linarith
  simp [hreads]

/-- What is found on a grid is rounded to the number, and is at most one step above it. -/
lemma of_onGrid?_eq_some (h : x.onGrid? g = some d) :
    x.readsBack d g = true ∧ ((d : ℚ) - 1) * (10 ^ g * unitsPerOne) ≤ x.units := by
  obtain ⟨hden, hscaled⟩ := @scaled_spec x.units _ unitsPerOne_pos g
  unfold onGrid? at h
  generalize scaled x.units unitsPerOne g = fraction at h hden hscaled
  obtain ⟨num, den⟩ := fraction
  dsimp only at h hden hscaled
  refine ⟨List.find?_some (p := (x.readsBack · g)) h, ?_⟩
  have hg : (0 : ℚ) < 10 ^ g := zpow_pos (by norm_num) _
  have hunit := unitsPerOne_posq
  have hd : d ≤ num / den + 1 := by
    have hmem := List.mem_of_find?_eq_some h
    have hround := roundHalfEven_le num den
    simp only [List.mem_cons, List.not_mem_nil, or_false] at hmem
    rcases hmem with rfl | rfl
    · exact hround
    · split <;> omega
  have hfloor : ((num / den : ℕ) : ℚ) ≤ num / den := Nat.cast_div_le
  have hd' : (d : ℚ) - 1 ≤ num / den := by
    have : (d : ℚ) ≤ (num / den : ℕ) + 1 := by exact_mod_cast hd
    linarith
  calc ((d : ℚ) - 1) * (10 ^ g * unitsPerOne)
      ≤ num / den * (10 ^ g * unitsPerOne) :=
        mul_le_mul_of_nonneg_right hd' (mul_pos hg hunit).le
    _ = x.units := by
      rw [hscaled]
      field_simp

/-- The search ends at a grid with a point that is rounded to the number, if it comes to one. -/
lemma findDigits_spec {i count : ℕ} (hi : i < count) (h : ∃ d, x.onGrid? (g - i) = some d) :
    ∃ d j, j ≤ i ∧ x.findDigits g count = (d, g - (j : ℕ)) ∧ x.onGrid? (g - (j : ℕ)) = some d := by
  induction count generalizing g i with
  | zero => omega
  | succ count ih =>
    rw [findDigits]
    cases hfound : x.onGrid? g with
    | some d => exact ⟨d, 0, Nat.zero_le _, by simp, by simpa using hfound⟩
    | none =>
      cases i with
      | zero =>
        obtain ⟨d, hd⟩ := h
        simp [hfound] at hd
      | succ i =>
        have hnext : g - 1 - (i : ℕ) = g - ((i + 1 : ℕ) : ℤ) := by omega
        obtain ⟨d, j, hj, hfind, hgrid⟩ := ih (g := g - 1) (by omega) (hnext ▸ h)
        have hprev : g - 1 - (j : ℕ) = g - ((j + 1 : ℕ) : ℤ) := by omega
        exact ⟨d, j + 1, by omega, by rw [hfind, hprev], by rw [← hprev, hgrid]⟩

/-- The zeros at the end are dropped without changing the value. -/
lemma dropZeros_spec (hd : d ≠ 0) (g : ℤ) (count : ℕ) :
    ∃ d' k, dropZeros d g count = (d', g + (k : ℕ)) ∧ d = d' * tenPow k := by
  induction count generalizing d g with
  | zero => exact ⟨d, 0, by simp [dropZeros], (Nat.mul_one d).symm⟩
  | succ count ih =>
    rw [dropZeros]
    by_cases hzero : d % 10 = 0
    · rw [if_pos hzero]
      obtain ⟨d', k, hdrop, hvalue⟩ := ih (d := d / 10) (by omega) (g + 1)
      refine ⟨d', k + 1, by rw [hdrop]; congr 1; omega, ?_⟩
      have hpow : tenPow (k + 1) = 10 * tenPow k := Nat.pow_succ'
      calc d = 10 * (d / 10) := by omega
        _ = 10 * (d' * tenPow k) := by rw [← hvalue]
        _ = d' * tenPow (k + 1) := by rw [hpow]; ring
    · rw [if_neg hzero]
      exact ⟨d, 0, by simp, (Nat.mul_one d).symm⟩

/-! ## The shortest form -/

/-- **Seventeen digits are enough**: the last of the grids, or the one with the smallest power of
ten that is needed, is finer than the way to the neighbours. -/
lemma exists_fine_grid (hx : x.isZero = false) :
    ∃ i : ℕ, i < 17 ∧ -324 ≤ leadingExponent x.units unitsPerOne - i ∧
      10 ^ (leadingExponent x.units unitsPerOne - i) * (unitsPerOne : ℚ) < 2 * x.margin := by
  have hunits : 0 < x.units := one_le_units hx
  obtain ⟨hlow, hhigh⟩ := zpow_leadingExponent hunits unitsPerOne_pos
  have hunit := unitsPerOne_posq
  rw [le_div_iff₀ hunit] at hlow
  rw [div_lt_iff₀ hunit] at hhigh
  generalize leadingExponent x.units unitsPerOne = k at hlow hhigh
  have hk : -324 ≤ k := by
    have hone : (1 : ℚ) ≤ x.units := by exact_mod_cast hunits
    have := @neg_324_lt_of_lt (k + 1) (by linarith)
    omega
  by_cases hsmall : k - 16 ≤ -324
  · -- the smallest power of ten is less than a unit
    refine ⟨(k + 324).toNat, by omega, by omega, ?_⟩
    have hquarter := @zpow_mul_le (k - (k + 324).toNat) (by omega)
    have hmargin := x.half_le_margin
    linarith
  · refine ⟨16, by omega, by omega, ?_⟩
    have hsplit : (10 : ℚ) ^ (k - (16 : ℕ)) * unitsPerOne * 10 ^ 16 = 10 ^ k * unitsPerOne := by
      rw [zpow_eq_mul_pow k 16]
      ring
    have hlast : (0 : ℚ) < twoPow x.exponent := by exact_mod_cast twoPow_pos _
    have hbits : (x.units : ℚ) = x.significand * twoPow x.exponent := by
      rw [units]
      push_cast
      rfl
    rw [hbits] at hlow
    generalize (10 : ℚ) ^ (k - (16 : ℕ)) * unitsPerOne = step at hsplit ⊢
    rw [← hsplit] at hlow
    unfold margin
    split
    next hfirst =>
      -- the neighbour below is half as far, and the number is the smallest with its shift
      have h52 : (x.significand : ℚ) = 2 ^ 52 := by
        rw [hfirst.2]
        exact_mod_cast rfl
      rw [h52] at hlow
      linarith
    · have h53 : (x.significand : ℚ) < 2 ^ 53 := by exact_mod_cast x.significand_lt
      have := mul_lt_mul_of_pos_right h53 hlast
      linarith

/-- **The shortest form of a number is rounded to the number.** -/
theorem exists_shortest_eq (hx : x.isZero = false) :
    ∃ d g, x.shortest = (d, g) ∧ d ≠ 0 ∧ d ≤ tenPow 17 ∧ -324 ≤ g ∧ g ≤ 308 ∧
      x.Receives (inUnits d g) := by
  obtain ⟨i, hi, hlow, hfine⟩ := exists_fine_grid hx
  obtain ⟨d, j, hj, hfind, hgrid⟩ := findDigits_spec hi (exists_onGrid?_eq_some hx hfine)
  obtain ⟨hreads, hstep⟩ := of_onGrid?_eq_some hgrid
  obtain ⟨hreceives, hd⟩ := receives_of_readsBack hx hreads
  obtain ⟨d', k, hdrop, hvalue⟩ := dropZeros_spec hd (leadingExponent x.units unitsPerOne - j) 17
  have hd' : d' ≠ 0 := by
    rintro rfl
    exact hd (by rw [hvalue, Nat.zero_mul])
  have hsame : inUnits d (leadingExponent x.units unitsPerOne - j) =
      inUnits d' (leadingExponent x.units unitsPerOne - j + k) := by
    rw [inUnits, inUnits, hvalue, zpow_add₀ (by norm_num), zpow_natCast]
    push_cast [Decimal.cast_tenPow]
    ring
  rw [hsame] at hreceives
  refine ⟨d', leadingExponent x.units unitsPerOne - j + k, ?_, hd', ?_, by omega, ?_, hreceives⟩
  · rw [shortest, if_neg (by simp [hx]), hfind]
    exact hdrop
  · -- the number has `j + 1` digits before the grid
    have hle : d ≤ tenPow 17 := by
      obtain ⟨-, hhigh⟩ := zpow_leadingExponent (one_le_units hx) unitsPerOne_pos
      rw [div_lt_iff₀ unitsPerOne_posq] at hhigh
      generalize leadingExponent x.units unitsPerOne = n at hstep hhigh
      have hpow : (10 : ℚ) ^ (n + 1) = 10 ^ (j + 1) * 10 ^ (n - j) := by
        have hsub : n + 1 - (j + 1 : ℕ) = n - j := by omega
        rw [zpow_eq_mul_pow (n + 1) (j + 1), hsub, mul_comm]
      have hgrid : (0 : ℚ) < 10 ^ (n - j) * unitsPerOne :=
        mul_pos (zpow_pos (by norm_num) _) unitsPerOne_posq
      rw [hpow, mul_assoc] at hhigh
      have hlt : (d : ℚ) - 1 < 10 ^ (j + 1) :=
        lt_of_mul_lt_mul_right (lt_of_le_of_lt hstep hhigh) hgrid.le
      have hlt' : d < tenPow (j + 1) + 1 := by
        have : (d : ℚ) < 10 ^ (j + 1) + 1 := by linarith
        exact_mod_cast this
      have hten : tenPow (j + 1) ≤ tenPow 17 := Nat.pow_le_pow_right (by decide) (by omega)
      omega
    exact Nat.le_trans (Nat.le_of_dvd (Nat.pos_of_ne_zero hd) ⟨_, hvalue⟩) hle
  · -- the number is below `10 ^ 309`
    refine le_308_of_lt ?_
    have hnear := abs_le.mp hreceives.abs_sub_le
    have hlarge : (x.units : ℚ) + twoPow x.exponent ≤ ceiling := by
      exact_mod_cast x.units_add_le_ceiling
    have hlast : (0 : ℚ) < twoPow x.exponent := by exact_mod_cast twoPow_pos _
    have hone : (1 : ℚ) ≤ d' := by exact_mod_cast Nat.one_le_iff_ne_zero.mpr hd'
    have hpos := mul_pos (zpow_pos (by norm_num : (0 : ℚ) < 10)
      (leadingExponent x.units unitsPerOne - j + k)) unitsPerOne_posq
    rw [inUnits, mul_assoc] at hnear
    have := le_mul_of_one_le_left hpos.le hone
    linarith

end Binary64

end LinkWatch
