/-
# Binary floating-point numbers of 64 bits

The finite numbers of the format: a sign and a magnitude `significand * 2 ^ (exponent - 1074)`
with at most 53 significant bits.  Each operation rounds the exact result to the nearest
number, ties to the even significand, and has no result when that overflows.
-/
import LinkWatch.Number.Power
import LinkWatch.Number.Rounding

namespace LinkWatch

/-- A finite floating-point number. The magnitude counts units of `2 ^ (-1074)`, the smallest
positive number of the format. -/
structure Binary64 where
  /-- The sign bit; zero has one too. -/
  negative : Bool
  /-- The significant bits. -/
  significand : Nat
  /-- How far the significant bits are shifted, in units of the smallest number. -/
  exponent : Nat
  significand_lt : significand < twoPow 53
  exponent_le : exponent ≤ 2045
  normal : exponent = 0 ∨ twoPow 52 ≤ significand
deriving DecidableEq

namespace Binary64

/-- The number of units in one. -/
def unitsPerOne : Nat := twoPow 1074

/-- The magnitude in units. -/
def units (x : Binary64) : Nat := x.significand * twoPow x.exponent

/-- The zero of a sign. -/
def zero (negative : Bool) : Binary64 :=
  ⟨negative, 0, 0, by decide, by decide, .inl rfl⟩

def isZero (x : Binary64) : Bool := x.significand == 0

/-- The number with the other sign. -/
def neg (x : Binary64) : Binary64 := { x with negative := !x.negative }

/-! ## Rounding to the nearest number -/

/-- The shift at which a magnitude of `num / den` units keeps 53 bits. -/
def shiftFor (num den : Nat) : Nat := (num / den).log2 - 52

/-- The significant bits nearest to `num / den` units at that shift. -/
def bitsFor (num den : Nat) : Nat := roundHalfEven num (den * twoPow (shiftFor num den))

theorem div_pow_shiftFor_lt (num den : Nat) :
    num / den / twoPow (shiftFor num den) < twoPow 53 := by
  rw [Nat.div_lt_iff_lt_mul (twoPow_pos _), ← twoPow_add]
  refine Nat.lt_of_lt_of_le Nat.lt_log2_self ?_
  exact twoPow_le_twoPow (by unfold shiftFor; omega)

theorem bitsFor_le (num den : Nat) : bitsFor num den ≤ twoPow 53 := by
  refine Nat.le_trans (roundHalfEven_le _ _) ?_
  rw [← Nat.div_div_eq_div_mul]
  exact div_pow_shiftFor_lt num den

theorem le_bitsFor (num den : Nat) (h : shiftFor num den ≠ 0) : twoPow 52 ≤ bitsFor num den := by
  refine Nat.le_trans ?_ (div_le_roundHalfEven _ _)
  rw [← Nat.div_div_eq_div_mul, Nat.le_div_iff_mul_le (twoPow_pos _), ← twoPow_add]
  have hq : num / den ≠ 0 := by
    intro h0
    simp [shiftFor, h0] at h
  refine Nat.le_trans (twoPow_le_twoPow ?_) (Nat.log2_self_le hq)
  unfold shiftFor at *
  omega

/-- The number nearest to `num / den` units, ties to the even significand; none when it is too
large for the format. -/
def nearest? (negative : Bool) (num den : Nat) : Option Binary64 :=
  if hc : bitsFor num den < twoPow 53 then
    if he : shiftFor num den ≤ 2045 then
      some ⟨negative, bitsFor num den, shiftFor num den, hc, he, by
        by_cases h : shiftFor num den = 0
        · exact .inl h
        · exact .inr (le_bitsFor num den h)⟩
    else none
  else if he : shiftFor num den + 1 ≤ 2045 then
    some ⟨negative, twoPow 52, shiftFor num den + 1, by decide, he, .inr (Nat.le_refl _)⟩
  else none

/-! ## Operations -/

/-- The number nearest to a whole number. -/
def ofNat? (n : Nat) : Option Binary64 := nearest? false (n * unitsPerOne) 1

/-- The number nearest to a whole number with a sign. -/
def ofInt? (z : Int) : Option Binary64 := nearest? (z < 0) (z.natAbs * unitsPerOne) 1

/-- The rounded product. -/
def mul? (x y : Binary64) : Option Binary64 :=
  nearest? (x.negative != y.negative) (x.units * y.units) unitsPerOne

/-- The rounded quotient; `y` is not zero. -/
def div? (x y : Binary64) : Option Binary64 :=
  nearest? (x.negative != y.negative) (x.units * unitsPerOne) y.units

/-- The rounded sum of the magnitudes. -/
def addMagnitudes? (x y : Binary64) : Option Binary64 := nearest? false (x.units + y.units) 1

/-- The whole number nearest to the magnitude, ties upward. -/
def roundMagnitude (x : Binary64) : Nat := roundHalfUp x.units unitsPerOne

/-- Equality as numbers: the two zeros are the same. -/
def sameValue (x y : Binary64) : Bool :=
  x.units == y.units && (x.negative == y.negative || x.isZero)

end Binary64

end LinkWatch
