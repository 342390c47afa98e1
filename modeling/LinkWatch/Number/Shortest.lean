/-
# The shortest decimal form of a floating-point number

Of all decimal numbers that round to a given floating-point number, the ones with the fewest
digits, and of those the nearest.  A number is written with a point when its leading digit
stands for `10 ^ (-5)` to `10 ^ 15`, and with an exponent otherwise.
-/
import LinkWatch.Number.Decimal

namespace LinkWatch

namespace Binary64

/-! ## Digits -/

/-- The power of ten of the leading digit of `num / den`, which is not zero. -/
def leadingExponent (num den : Nat) : Int :=
  if den ≤ num then Decimal.digitCount (num / den) - 1
  else -(Decimal.digitCount ((den - 1) / num) : Int)

/-- The quotient `num / den` as a multiple of `10 ^ grid`: numerator and denominator. -/
def scaled (num den : Nat) (grid : Int) : Nat × Nat :=
  if 0 ≤ grid then (num, den * tenPow grid.toNat) else (num * tenPow (-grid).toNat, den)

/-- Whether `digits * 10 ^ grid` rounds to `x`. -/
def readsBack (x : Binary64) (digits : Nat) (grid : Int) : Bool :=
  Decimal.toBinary64? ⟨x.negative, digits, grid⟩ == some x

/-- The neighbour of `x` on the grid of multiples of `10 ^ grid` that rounds to `x`; of two such
neighbours the nearer one, and of two equally near the even one. -/
def onGrid? (x : Binary64) (grid : Int) : Option Nat :=
  let (num, den) := scaled x.units unitsPerOne grid
  let low := num / den
  let nearest := roundHalfEven num den
  let other := if nearest = low then low + 1 else low
  [nearest, other].find? (x.readsBack · grid)

/-- The first grid from `grid` downward with a point that rounds to `x`, among `count` grids. -/
def findDigits (x : Binary64) (grid : Int) : Nat → Nat × Int
  | 0 => (0, grid)
  | count + 1 =>
    match x.onGrid? grid with
    | some digits => (digits, grid)
    | none => findDigits x (grid - 1) count

/-- Drops zeros at the end, of at most `count` of them. -/
def dropZeros (digits : Nat) (grid : Int) : Nat → Nat × Int
  | 0 => (digits, grid)
  | count + 1 =>
    if digits % 10 = 0 then dropZeros (digits / 10) (grid + 1) count else (digits, grid)

/-- The shortest digits of `x` and the power of ten that they are multiplied by. Seventeen digits
are always enough. -/
def shortest (x : Binary64) : Nat × Int :=
  if x.isZero then (0, 0)
  else
    let (digits, grid) := findDigits x (leadingExponent x.units unitsPerOne) 17
    dropZeros digits grid 17

/-! ## Layout -/

/-- Digits with a point after the first `whole` of them, with a zero on either side when there
would be none. -/
def withPoint (digits : List Char) (whole : Int) : List Char :=
  if whole ≤ 0 then '0' :: '.' :: List.replicate (-whole).toNat '0' ++ digits
  else
    let front := digits.take whole.toNat
    let back := digits.drop whole.toNat
    front ++ List.replicate (whole.toNat - front.length) '0' ++ '.' ::
      (if back = [] then ['0'] else back)

/-- Digits with a point after the first of them, and an exponent with its sign. -/
def withExponent (digits : List Char) (exponent : Int) : List Char :=
  digits.take 1 ++ (if digits.length ≤ 1 then [] else '.' :: digits.drop 1) ++
    'e' :: (if exponent < 0 then '-' else '+') :: Nat.toDigits 10 exponent.natAbs

/-- The characters of a number, in its shortest form. -/
def chars (x : Binary64) : List Char :=
  let (digits, grid) := x.shortest
  let text := Nat.toDigits 10 digits
  let leading : Int := grid + text.length - 1
  (if x.negative then ['-'] else []) ++
    (if -5 ≤ leading ∧ leading < 16 then withPoint text (leading + 1)
     else withExponent text leading)

end Binary64

end LinkWatch
