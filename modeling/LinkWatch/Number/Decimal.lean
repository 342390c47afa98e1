/-
# Decimal numbers

A number in scientific notation with exact digits, the text forms in which one may be written,
and the floating-point number nearest to it.
-/
import LinkWatch.Number.Binary64

namespace LinkWatch

/-- The number `± coefficient * 10 ^ exponent`. -/
structure Decimal where
  negative : Bool
  coefficient : Nat
  exponent : Int
deriving DecidableEq

namespace Decimal

/-- The number of decimal digits; zero has one. -/
def digitCount (n : Nat) : Nat := (Nat.toDigits 10 n).length

/-- The floating-point number nearest to a decimal number, none when it is too large. Numbers
of `10 ^ 310` and more are too large, and those below `10 ^ (-330)` are nearest to zero. -/
def toBinary64? (d : Decimal) : Option Binary64 :=
  let order := d.exponent + digitCount d.coefficient
  if d.coefficient = 0 ∨ order < -330 then some (.zero d.negative)
  else if 311 < order then none
  else if 0 ≤ d.exponent then
    Binary64.nearest? d.negative
      (d.coefficient * tenPow d.exponent.toNat * Binary64.unitsPerOne) 1
  else
    Binary64.nearest? d.negative
      (d.coefficient * Binary64.unitsPerOne) (tenPow (-d.exponent).toNat)

/-! ## Reading -/

/-- The value of a list of decimal digits that follow the digits of `high`. -/
def ofDigits (high : Nat) : List Char → Nat
  | [] => high
  | c :: rest => ofDigits (10 * high + (c.toNat - '0'.toNat)) rest

/-- Splits a sign off. -/
def splitSign : List Char → Bool × List Char
  | '-' :: rest => (true, rest)
  | '+' :: rest => (false, rest)
  | cs => (false, cs)

/-- The exponent part of a number, up to the end of the text. -/
def exponent? : List Char → Option Int
  | [] => some 0
  | c :: rest =>
    let (negative, digits) := splitSign rest
    if (c = 'e' ∨ c = 'E') ∧ digits ≠ [] ∧ digits.all Char.isDigit then
      let size : Int := ofDigits 0 digits
      some (if negative then -size else size)
    else none

/-- Splits a fraction part off: a point and the digits after it. -/
def splitFraction : List Char → List Char × List Char
  | '.' :: rest => (rest.takeWhile Char.isDigit, rest.dropWhile Char.isDigit)
  | cs => ([], cs)

/-- Reads a whole text as a number: an optional sign, digits with an optional point anywhere
among or around them, and an optional exponent. -/
def parse? (s : String) : Option Decimal :=
  let (negative, rest) := splitSign s.toList
  let whole := rest.takeWhile Char.isDigit
  let (fraction, rest) := splitFraction (rest.dropWhile Char.isDigit)
  if whole = [] ∧ fraction = [] then none
  else (exponent? rest).map fun exponent =>
    ⟨negative, ofDigits 0 (whole ++ fraction), exponent - fraction.length⟩

end Decimal

end LinkWatch
