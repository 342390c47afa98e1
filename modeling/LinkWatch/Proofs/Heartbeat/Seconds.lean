/-
# Intervals in seconds

The server gives an interval as a number of seconds, and a number of milliseconds comes out of it.
On the way there are at least two roundings: the seconds are rounded to a floating-point number,
and so is their product with one thousand.  Up to `2 ^ 50` milliseconds these errors add up to less
than half a millisecond, so that the last rounding, to a whole number, undoes them.
-/
import LinkWatch.Heartbeat.Interval
import LinkWatch.Proofs.Json.Numerals
import LinkWatch.Proofs.Json.Scaling
import LinkWatch.Proofs.Number.Nearest
import Mathlib.Data.List.TakeWhile
import Mathlib.Data.Nat.Digits.Defs

namespace LinkWatch

variable {count num den : ℕ}

/-! ## From seconds to milliseconds -/

namespace Interval

open Binary64 (unitsPerOne unitsPerOne_pos nearest?_close ofNat?_eq_some)

lemma twoPow_le_unitsPerOne : twoPow 64 ≤ unitsPerOne := by
  obtain ⟨k, hk, hunit⟩ := Binary64.exists_unitsPerOne_eq
  rw [hunit]
  exact twoPow_le_twoPow (by omega)

/-- Two relative errors of `2 ^ (-53)`, one after the other, stay below half a unit. -/
lemma near_half {a b unit : ℕ} (hb : Close b (count * unit)) (ha : Close a b)
    (hunit : twoPow 64 ≤ unit) (hone : 1 ≤ count) (hle : count ≤ twoPow 50) :
    twoPow 52 ≤ b ∧ b < twoPow 64 * unit ∧ 2 * (count * unit) < 2 * a + unit ∧
      2 * a < 2 * (count * unit) + unit := by
  have hlow : unit ≤ count * unit := Nat.le_mul_of_pos_left _ hone
  have hhigh : count * unit ≤ twoPow 50 * unit := Nat.mul_le_mul_right _ hle
  generalize count * unit = c at *
  obtain ⟨hb1, hb2⟩ := hb
  obtain ⟨ha1, ha2⟩ := ha
  have h50 : twoPow 50 = 1125899906842624 := rfl
  have h52 : twoPow 52 = 4503599627370496 := rfl
  have h53 : twoPow 53 = 9007199254740992 := rfl
  have h64 : twoPow 64 = 18446744073709551616 := rfl
  rw [h53] at hb1 hb2 ha1 ha2
  rw [h52, h64]
  rw [h50] at hhigh
  rw [h64] at hunit
  omega

/-- The product with one thousand is rounded to the number of thousandths, if the number is near
to it. -/
lemma millis?_of_close {x : Binary64} (hone : 1 ≤ count) (hle : count ≤ twoPow 50)
    (hneg : x.negative = false) (hx : Close (x.units * 1000) (count * unitsPerOne)) :
    millis? x = some (UInt64.ofNat count) := by
  obtain ⟨thousand, hthousand, hnegative, hunits⟩ := ofNat?_eq_some (n := 1000) (by decide)
  have hmul : x.units * thousand.units = x.units * 1000 * unitsPerOne := by
    rw [hunits, Nat.mul_assoc]
  have hself : Close (x.units * 1000) (x.units * 1000) := ⟨by omega, by omega⟩
  obtain ⟨hlow, hhigh, -⟩ := near_half hx hself twoPow_le_unitsPerOne hone hle
  have hlow' : unitsPerOne * twoPow 52 ≤ x.units * 1000 * unitsPerOne := by
    rw [Nat.mul_comm unitsPerOne]
    exact Nat.mul_le_mul_right _ hlow
  have hhigh' : x.units * 1000 * unitsPerOne < unitsPerOne * (twoPow 64 * unitsPerOne) := by
    rw [Nat.mul_comm unitsPerOne (_ * _)]
    exact Nat.mul_lt_mul_of_pos_right hhigh unitsPerOne_pos
  obtain ⟨product, hproduct, hsign, hclose⟩ :=
    nearest?_close (x.negative != thousand.negative) unitsPerOne_pos hlow' hhigh'
  have hproduct' : x.mul? thousand = some product := by
    rw [Binary64.mul?, hmul, hproduct]
  have hclose' := hclose.scale unitsPerOne_pos (Nat.mul_one _)
  rw [Nat.mul_one] at hclose'
  obtain ⟨-, -, hup, hdown⟩ := near_half hx hclose' twoPow_le_unitsPerOne hone hle
  have hround : product.roundMagnitude = count := roundHalfUp_eq hup hdown
  have hword : min count maxWord = count := Nat.min_eq_left (Nat.le_trans hle (by decide))
  have hne : count ≠ 0 := Nat.ne_of_gt hone
  rw [hneg, hnegative] at hsign
  simp [millis?, hthousand, hproduct', hround, hsign, hword, hne]

/-- **A number of thousandths of a second comes out as the number of milliseconds**, whatever
quotient of whole numbers its magnitude is given as. -/
lemma exists_nearest?_millis? (hone : 1 ≤ count) (hle : count ≤ twoPow 50) (hden : 0 < den)
    (hnum : num * 1000 = count * unitsPerOne * den) :
    ∃ x, Binary64.nearest? false num den = some x ∧ millis? x = some (UInt64.ofNat count) := by
  have hunit := twoPow_le_unitsPerOne
  have hlow : den * twoPow 52 ≤ num := by
    have hscaled : 1000 * (den * twoPow 52) ≤ 1000 * num := by
      calc 1000 * (den * twoPow 52) = 1000 * twoPow 52 * den := by ring
        _ ≤ unitsPerOne * den := Nat.mul_le_mul_right den (Nat.le_trans (by decide) hunit)
        _ ≤ count * unitsPerOne * den := Nat.mul_le_mul_right den (Nat.le_mul_of_pos_left _ hone)
        _ = 1000 * num := by rw [← hnum, Nat.mul_comm]
    omega
  have hhigh : num < den * (twoPow 64 * unitsPerOne) := by
    have hscaled : 1000 * num < 1000 * (den * (twoPow 64 * unitsPerOne)) := by
      calc 1000 * num = count * (unitsPerOne * den) := by
            rw [Nat.mul_comm, hnum, Nat.mul_assoc]
        _ ≤ twoPow 50 * (unitsPerOne * den) := Nat.mul_le_mul_right _ hle
        _ < 1000 * twoPow 64 * (unitsPerOne * den) :=
          Nat.mul_lt_mul_of_pos_right (by decide) (Nat.mul_pos unitsPerOne_pos hden)
        _ = 1000 * (den * (twoPow 64 * unitsPerOne)) := by ring
    omega
  obtain ⟨x, hx, hneg, hclose⟩ := nearest?_close false hden hlow hhigh
  exact ⟨x, hx, millis?_of_close hone hle hneg (hclose.scale hden hnum)⟩

/-- A payload that stands for a number of seconds sets the interval that they come to. -/
lemma ofPayload_eq_ok {v : Json.Value} {x : Binary64} {n : UInt64} (hx : seconds? v = some x)
    (hn : millis? x = some n) : ofPayload v = .ok n := by
  rw [ofPayload, hx, Option.bind_some, hn]

end Interval

/-! ## Decimals -/

namespace Decimal

lemma toNat_digitChar {d : ℕ} (h : d < 10) : (Nat.digitChar d).toNat - '0'.toNat = d := by
  have hzero : '0'.toNat = 48 := rfl
  rw [Nat.toNat_digitChar_of_lt_ten h, hzero, Nat.add_sub_cancel_left]

/-- A text that begins with a digit has no sign. -/
lemma splitSign_of_isDigit {cs : List Char} (h : ∀ c ∈ cs.head?, c.isDigit = true) :
    splitSign cs = (false, cs) := by
  unfold splitSign
  split
  next rest => exact absurd (h '-' rfl) (by decide)
  next rest => exact absurd (h '+' rfl) (by decide)
  next => rfl

/-- The digits of a number of thousandths do not exceed it. -/
lemma le_of_scaled {c k : ℕ} (hlen : k ≤ 3) (hscaled : c * 1000 = count * tenPow k) :
    c ≤ count := by
  have hten : tenPow k ≤ 1000 := Nat.pow_le_pow_right (by decide) hlen
  have := Nat.mul_le_mul_left count hten
  omega

/-- A decimal with up to three digits after the point is rounded at once. -/
lemma exists_toBinary64? {c k : ℕ} (hlen : k ≤ 3) (hscaled : c * 1000 = count * tenPow k)
    (hone : 1 ≤ count) (hle : count ≤ twoPow 50) :
    ∃ x, toBinary64? ⟨false, c, -k⟩ = some x ∧ Interval.millis? x = some (UInt64.ofNat count) := by
  have hpos : 0 < tenPow k := Nat.pow_pos (by decide)
  have hne : c ≠ 0 := by
    rintro rfl
    have := Nat.mul_pos hone hpos
    omega
  have hcount : digitCount c ≤ 16 := by
    refine Nat.toDigits_length 10 c 16 (by decide) ?_
    exact Nat.lt_of_le_of_lt (Nat.le_trans (le_of_scaled hlen hscaled) hle) (by decide)
  have horder : ¬ (c = 0 ∨ (-k : ℤ) + digitCount c < -330) := by omega
  have hlarge : ¬ (311 < (-k : ℤ) + digitCount c) := by omega
  unfold toBinary64?
  simp only [horder, hlarge, if_false]
  rcases Nat.eq_zero_or_pos k with rfl | hk
  · have hsize : (-((0 : ℕ) : ℤ)).toNat = 0 := rfl
    have hzero : tenPow 0 = 1 := rfl
    rw [hzero, Nat.mul_one] at hscaled
    rw [if_pos (by omega), hsize, hzero, Nat.mul_one]
    refine Interval.exists_nearest?_millis? hone hle Nat.one_pos ?_
    rw [Nat.mul_right_comm, hscaled, Nat.mul_one]
  · have hneg : ¬ (0 ≤ (-k : ℤ)) := by omega
    have hsize : (- -(k : ℤ)).toNat = k := by omega
    rw [if_neg hneg, hsize]
    refine Interval.exists_nearest?_millis? hone hle hpos ?_
    rw [Nat.mul_right_comm, hscaled, Nat.mul_right_comm]

end Decimal

namespace Json

/-- A significand is scaled down by the rounded quotient of two exact numbers. -/
lemma exists_scale? {c k : ℕ} (hk : 0 < k) (hlen : k ≤ 3)
    (hscaled : c * 1000 = count * tenPow k) (hone : 1 ≤ count) (hle : count ≤ twoPow 50) :
    ∃ x, scale? c (-k) = some x ∧ Interval.millis? x = some (UInt64.ofNat count) := by
  have hten : tenPow k ≤ 1000 := Nat.pow_le_pow_right (by decide) hlen
  have hc : c < twoPow 53 :=
    Nat.lt_of_le_of_lt (Nat.le_trans (Decimal.le_of_scaled hlen hscaled) hle) (by decide)
  obtain ⟨x, hx, hxneg, hxunits⟩ := Binary64.ofNat?_eq_some hc
  obtain ⟨y, hy, hyneg, hyunits⟩ :=
    Binary64.ofNat?_eq_some (n := tenPow k) (Nat.lt_of_le_of_lt hten (by decide))
  have hden : 0 < y.units := by
    rw [hyunits]
    exact Nat.mul_pos (Nat.pow_pos (by decide)) Binary64.unitsPerOne_pos
  have hnum : x.units * Binary64.unitsPerOne * 1000 =
      count * Binary64.unitsPerOne * y.units := by
    rw [hxunits, hyunits]
    calc c * Binary64.unitsPerOne * Binary64.unitsPerOne * 1000
        = c * 1000 * (Binary64.unitsPerOne * Binary64.unitsPerOne) := by ring
      _ = count * tenPow k * (Binary64.unitsPerOne * Binary64.unitsPerOne) := by rw [hscaled]
      _ = count * Binary64.unitsPerOne * (tenPow k * Binary64.unitsPerOne) := by ring
  obtain ⟨z, hz, hmillis⟩ := Interval.exists_nearest?_millis? hone hle hden hnum
  refine ⟨z, ?_, hmillis⟩
  have hdiv : x.div? y = some z := by
    rw [Binary64.div?, hxneg, hyneg]
    exact hz
  rw [scale?_neg c hk (Nat.le_trans hlen (by decide)), hx, Option.bind_some, hy, Option.bind_some, hdiv]

namespace Numeral

variable {n : Numeral}

/-- The numeral is a plain decimal with at most three digits after the point, and stands for a
number of thousandths. -/
structure Thousandths (n : Numeral) (count : ℕ) : Prop where
  plain : n.Plain
  negative : n.negative = false
  length_le : n.decimals.length ≤ 3
  value : Decimal.ofDigits 0 (n.whole ++ n.decimals) * tenPow (3 - n.decimals.length) = count

/-- Every number of thousandths has such a numeral, without decimals if it is a multiple of one
thousand. -/
lemma exists_thousandths (count : ℕ) :
    ∃ n : Numeral, n.Thousandths count ∧ (n.fraction = none ↔ 1000 ∣ count) := by
  by_cases hdvd : 1000 ∣ count
  · obtain ⟨seconds, rfl⟩ := hdvd
    refine ⟨⟨false, Nat.toDigits 10 seconds, none, none⟩,
      ⟨⟨wholeDigits_toDigits _, by simp, rfl⟩, rfl, Nat.zero_le _, ?_⟩, by simp⟩
    have hvalue : Decimal.ofDigits 0 (Nat.toDigits 10 seconds ++ []) * 1000 = 1000 * seconds := by
      rw [List.append_nil, Decimal.ofDigits_toDigits, Nat.mul_comm]
    exact hvalue
  · have hten : 0 < 10 := by decide
    let decimals := [Nat.digitChar (count / 100 % 10), Nat.digitChar (count / 10 % 10),
      Nat.digitChar (count % 10)]
    refine ⟨⟨false, Nat.toDigits 10 (count / 1000), some decimals, none⟩,
      ⟨⟨wholeDigits_toDigits _, fun f hf => ?_, rfl⟩, rfl, Nat.le_refl _, ?_⟩, by simp [hdvd]⟩
    · obtain rfl : decimals = f := Option.some.inj hf
      refine ⟨List.cons_ne_nil _ _, fun x hx => ?_⟩
      simp only [decimals, List.mem_cons, List.not_mem_nil, or_false] at hx
      rcases hx with rfl | rfl | rfl <;> simp [Nat.isDigit_digitChar, Nat.mod_lt]
    · have hvalue :
          Decimal.ofDigits 0 (Nat.toDigits 10 (count / 1000) ++ decimals) * 1 = count := by
        rw [Decimal.ofDigits_append, Decimal.ofDigits_toDigits]
        simp only [decimals, Decimal.ofDigits_cons, Decimal.toNat_digitChar (Nat.mod_lt _ hten),
          Decimal.ofDigits_nil]
        omega
      exact hvalue

namespace Thousandths

lemma value_scaled (h : n.Thousandths count) :
    Decimal.ofDigits 0 (n.whole ++ n.decimals) * 1000 = count * tenPow n.decimals.length := by
  have hten : tenPow (3 - n.decimals.length) * tenPow n.decimals.length = 1000 := by
    refine (Nat.pow_add 10 _ _).symm.trans ?_
    rw [Nat.sub_add_cancel h.length_le]
  rw [← h.value, Nat.mul_assoc, hten]

/-- All digits of the numeral fit into 64 bits. -/
lemma digits_le_maxWord (h : n.Thousandths count) (hle : count ≤ twoPow 50) :
    Decimal.ofDigits 0 (n.whole ++ n.decimals) ≤ maxWord :=
  Nat.le_trans (Decimal.le_of_scaled h.length_le h.value_scaled) (Nat.le_trans hle (by decide))

/-- Whole seconds are kept exactly until they are rounded. -/
lemma value?_of_whole (h : n.Thousandths count) (hle : count ≤ twoPow 50)
    (hf : n.fraction = none) :
    n.value? = some (.integer (Decimal.ofDigits 0 n.whole : ℕ)) := by
  have hdigits := h.digits_le_maxWord hle
  rw [decimals, hf, Option.getD_none, List.append_nil] at hdigits
  simp [value?, gather_eq hdigits, hf, h.plain.exponent, h.negative]

/-- Seconds with a fraction are the rounded quotient of two exact numbers. -/
lemma value?_of_fraction (h : n.Thousandths count) (hle : count ≤ twoPow 50) {f : List Char}
    (hf : n.fraction = some f) :
    n.value? = ((scale? (Decimal.ofDigits 0 (n.whole ++ f)) (-f.length)).map .real) := by
  obtain ⟨hwhole, hdecimals⟩ := gather_decimals (h.digits_le_maxWord hle)
  rw [decimals, hf, Option.getD_some] at hdecimals
  simp [value?, hwhole, hdecimals, hf, h.plain.exponent, h.negative, real?, exponentValue]

/-- A numeral in a JSON text has a value, and this is rounded to the interval. -/
lemma exists_value? (h : n.Thousandths count) (hone : 1 ≤ count) (hle : count ≤ twoPow 50) :
    ∃ x, n.value? = some x ∧ Interval.ofPayload (.number x) = .ok (UInt64.ofNat count) := by
  have hscaled := h.value_scaled
  cases hf : n.fraction with
  | none =>
    refine ⟨_, h.value?_of_whole hle hf, ?_⟩
    rw [decimals, hf, Option.getD_none, List.append_nil] at hscaled
    generalize Decimal.ofDigits 0 n.whole = w at hscaled ⊢
    have hnum : w * Binary64.unitsPerOne * 1000 = count * Binary64.unitsPerOne * 1 := by
      rw [Nat.mul_right_comm, hscaled]
      simp
    obtain ⟨x, hx, hmillis⟩ := Interval.exists_nearest?_millis? hone hle Nat.one_pos hnum
    exact Interval.ofPayload_eq_ok (x := x) hx hmillis
  | some f =>
    rw [h.value?_of_fraction hle hf]
    rw [decimals, hf, Option.getD_some] at hscaled
    have hlen := h.length_le
    rw [decimals, hf, Option.getD_some] at hlen
    obtain ⟨x, hx, hmillis⟩ := exists_scale?
      (List.length_pos_iff.mpr (h.plain.fraction f hf).1) hlen hscaled hone hle
    exact ⟨.real x, by rw [hx]; rfl, Interval.ofPayload_eq_ok (x := x) rfl hmillis⟩

/-! ### In a string -/

lemma plainChars_eq (h : n.Thousandths count) : n.plainChars = n.whole ++ n.fractionChars := by
  rw [plainChars, h.negative]
  simp

/-- A numeral begins and ends with a digit. -/
lemma isDigit_ends (h : n.Thousandths count) :
    (∀ c ∈ n.plainChars.head?, c.isDigit = true) ∧
      ∀ c ∈ n.plainChars.getLast?, c.isDigit = true := by
  rw [h.plainChars_eq]
  constructor
  · intro c hc
    rw [List.head?_append_of_ne_nil _ h.plain.whole.ne_nil] at hc
    exact h.plain.whole.isDigit c (List.mem_of_head? hc)
  · intro c hc
    cases hf : n.fraction with
    | none =>
      rw [fractionChars, hf, Option.map_none, Option.getD_none, List.append_nil] at hc
      exact h.plain.whole.isDigit c (List.mem_of_getLast? hc)
    | some f =>
      obtain ⟨hne, hdigits⟩ := h.plain.fraction f hf
      rw [fractionChars, hf, Option.map_some, Option.getD_some, ← List.singleton_append,
        ← List.append_assoc, List.getLast?_append_of_ne_nil _ hne] at hc
      exact hdigits c (List.mem_of_getLast? hc)

/-- A numeral in a string is read digit by digit. -/
lemma parse?_plainChars (h : n.Thousandths count) :
    Decimal.parse? (String.ofList n.plainChars) =
      some ⟨false, Decimal.ofDigits 0 (n.whole ++ n.decimals), -n.decimals.length⟩ := by
  have hsign : Decimal.splitSign n.plainChars = (false, n.plainChars) :=
    Decimal.splitSign_of_isDigit h.isDigit_ends.1
  have hfraction : Decimal.splitFraction n.fractionChars = (n.decimals, []) := by
    cases hf : n.fraction with
    | none => simp [Decimal.splitFraction, fractionChars, decimals, hf]
    | some f =>
      have hdigits := (h.plain.fraction f hf).2
      have htake : f.takeWhile Char.isDigit = f := List.takeWhile_eq_self_iff.mpr hdigits
      have hdrop : f.dropWhile Char.isDigit = [] := List.dropWhile_eq_nil_iff.mpr hdigits
      simp [Decimal.splitFraction, fractionChars, decimals, hf, htake, hdrop]
  have hpoint : n.fractionChars.takeWhile Char.isDigit = [] ∧
      n.fractionChars.dropWhile Char.isDigit = n.fractionChars := by
    cases hf : n.fraction <;> simp [fractionChars, hf]
  have htake : n.plainChars.takeWhile Char.isDigit = n.whole := by
    rw [h.plainChars_eq, List.takeWhile_append_of_pos h.plain.whole.isDigit, hpoint.1,
      List.append_nil]
  have hdrop : n.plainChars.dropWhile Char.isDigit = n.fractionChars := by
    rw [h.plainChars_eq, List.dropWhile_append_of_pos h.plain.whole.isDigit, hpoint.2]
  have hne : ¬ (n.whole = [] ∧ n.decimals = []) := fun hnil => h.plain.whole.ne_nil hnil.1
  simp only [Decimal.parse?, String.toList_ofList, hsign, htake, hdrop, hfraction, if_neg hne,
    Decimal.exponent?, Option.map_some, Int.zero_sub]

/-- A numeral in a string, between blanks, is rounded to the interval. -/
lemma ofPayload_string (h : n.Thousandths count) (hone : 1 ≤ count) (hle : count ≤ twoPow 50)
    {before after : List Char} (hbefore : ∀ c ∈ before, Text.isBlank c = true)
    (hafter : ∀ c ∈ after, Text.isBlank c = true) :
    Interval.ofPayload (.string (String.ofList (before ++ n.plainChars ++ after))) =
      .ok (UInt64.ofNat count) := by
  have htrim : Text.trim (String.ofList (before ++ n.plainChars ++ after)) =
      String.ofList n.plainChars := by
    rw [Text.trim, String.toList_ofList, Text.trimBlanks_append hbefore hafter
      (fun c hc => Text.isBlank_of_isDigit (h.isDigit_ends.1 c hc))
      (fun c hc => Text.isBlank_of_isDigit (h.isDigit_ends.2 c hc))]
  obtain ⟨x, hx, hmillis⟩ := Decimal.exists_toBinary64? h.length_le h.value_scaled hone hle
  refine Interval.ofPayload_eq_ok (x := x) ?_ hmillis
  rw [Interval.seconds?, htrim, h.parse?_plainChars, Option.bind_some, hx]

end Thousandths

end Numeral

end Json

end LinkWatch
