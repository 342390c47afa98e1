/-
# The scalar parts of a JSON text

Words, strings and numerals.  A numeral is first split into its digits; its value keeps as many
leading digits as fit into 64 bits, as a floating-point number scaled by one multiplication or
division by a power of ten.
-/
import LinkWatch.Json.Cursor
import LinkWatch.Text.Size

namespace LinkWatch.Json

/-! ## Words -/

/-- Moves over the remaining letters of a word. -/
def skipWord : List Char → Cursor → Except Error Cursor
  | [], c => .ok c
  | letter :: more, c =>
    match c.rest with
    | [] => failAt c.place .endInValue
    | x :: _ => if x = letter then skipWord more c.next else c.failNext .expectedWord

/-! ## Strings -/

/-- The value of a hexadecimal digit. -/
def hexValue? (c : Char) : Option Nat :=
  if c.isDigit then some (c.toNat - '0'.toNat)
  else if 'a' ≤ c ∧ c ≤ 'f' then some (c.toNat - 'a'.toNat + 10)
  else if 'A' ≤ c ∧ c ≤ 'F' then some (c.toNat - 'A'.toNat + 10)
  else none

/-- The value of hexadecimal digits that follow those of `high`. -/
def hexNumber? (high : Nat) : List Char → Option Nat
  | [] => some high
  | c :: rest => (hexValue? c).bind fun d => hexNumber? (16 * high + d) rest

/-- Reads four hexadecimal digits. -/
def readHex (c : Cursor) : Except Error (Nat × Cursor) :=
  let four := c.rest.take 4
  let after := four.foldl Position.after c.place
  if Text.byteSize four < 4 then failAt after .endInString
  else match hexNumber? 0 four with
    | some n => .ok (n, ⟨c.rest.drop 4, after⟩)
    | none => failAt (Cursor.placeAfter 4 c.rest c.place) .invalidEscape

/-- Moves over one given character of an escape for a second code unit. -/
def skipInPair (x : Char) (c : Cursor) : Except Error Cursor :=
  match c.rest with
  | [] => failAt c.place .endInString
  | y :: _ => if y = x then .ok c.next else c.failNext .endOfHexEscape

/-- Whether a code unit is the first of a pair. -/
def isHighSurrogate (n : Nat) : Bool := 0xd800 ≤ n && n ≤ 0xdbff

/-- Whether a code unit is the second of a pair. -/
def isLowSurrogate (n : Nat) : Bool := 0xdc00 ≤ n && n ≤ 0xdfff

/-- Reads the character of a numeric escape, which takes a pair of escapes when it is outside the
basic plane. -/
def readUnicodeEscape (c : Cursor) : Except Error (Char × Cursor) := do
  let (n, c) ← readHex c
  if isLowSurrogate n then failAt c.place .loneSurrogate
  else if isHighSurrogate n then
    let c ← skipInPair '\\' c
    let c ← skipInPair 'u' c
    let (m, c) ← readHex c
    if isLowSurrogate m then
      .ok (Char.ofNat (0x10000 + (n - 0xd800) * 0x400 + (m - 0xdc00)), c)
    else failAt c.place .loneSurrogate
  else .ok (Char.ofNat n, c)

/-- The character that a one-letter escape stands for. -/
def shortEscape? (x : Char) : Option Char :=
  if x = '"' ∨ x = '\\' ∨ x = '/' then some x
  else if x = 'b' then some '\x08'
  else if x = 'f' then some '\x0c'
  else if x = 'n' then some '\n'
  else if x = 'r' then some '\r'
  else if x = 't' then some '\t'
  else none

/-- Reads the character of an escape, after its backslash. -/
def readEscape (c : Cursor) : Except Error (Char × Cursor) :=
  match c.rest with
  | [] => failAt c.place .endInString
  | x :: _ =>
    if x = 'u' then readUnicodeEscape c.next
    else match shortEscape? x with
      | some y => .ok (y, c.next)
      | none => c.failNext .invalidEscape

/-- Reads the rest of a string up to its closing quote, `done` being what was read before,
reversed. -/
def readChars : Nat → List Char → Cursor → Except Error (String × Cursor)
  | 0, _, c => failAt c.place .endInString
  | fuel + 1, done, c =>
    match c.rest with
    | [] => failAt c.place .endInString
    | x :: _ =>
      if x = '"' then .ok (String.ofList done.reverse, c.next)
      else if x = '\\' then do
        let (y, c) ← readEscape c.next
        readChars fuel (y :: done) c
      else if x.toNat < 0x20 then c.failNext .controlCharacter
      else readChars fuel (x :: done) c.next

/-- Reads a string after its opening quote. -/
def readString (c : Cursor) : Except Error (String × Cursor) := readChars (c.rest.length + 1) [] c

/-! ## Numerals -/

/-- A numeral, split into its digits. -/
structure Numeral where
  negative : Bool
  /-- The digits before the point. -/
  whole : List Char
  /-- The digits after the point, if there is one. -/
  fraction : Option (List Char)
  /-- The sign and the digits of the exponent, if there is one. -/
  exponent : Option (Bool × List Char)

/-- Reads at least one digit. A missing digit is reported as `atEnd` at the end of the text. -/
def readDigits (atEnd : Cause) (c : Cursor) : Except Error (List Char × Cursor) :=
  match c.rest with
  | [] => failAt c.place atEnd
  | x :: _ => if x.isDigit then .ok (c.digits, c.skipDigits) else c.failNext .invalidNumber

/-- Reads the digits before the point; a zero stands alone. -/
def readWhole (atEnd : Cause) (c : Cursor) : Except Error (List Char × Cursor) :=
  if c.rest.head? = some '0' then
    let after := c.next
    match after.rest with
    | [] => .ok (['0'], after)
    | x :: _ => if x.isDigit then after.failNext .invalidNumber else .ok (['0'], after)
  else readDigits atEnd c

/-- Reads the part after the point, if there is one. -/
def readFraction (atEnd : Cause) (c : Cursor) : Except Error (Option (List Char) × Cursor) :=
  if c.rest.head? = some '.' then do
    let (digits, c) ← readDigits atEnd c.next
    .ok (some digits, c)
  else .ok (none, c)

/-- Reads the exponent, if there is one. -/
def readExponent (atEnd : Cause) (c : Cursor) : Except Error (Option (Bool × List Char) × Cursor) :=
  if c.rest.head? = some 'e' ∨ c.rest.head? = some 'E' then do
    let c := c.next
    let negative := c.rest.head? = some '-'
    let c := if negative ∨ c.rest.head? = some '+' then c.next else c
    let (digits, c) ← readDigits atEnd c
    .ok (some (negative, digits), c)
  else .ok (none, c)

/-- Reads a numeral. -/
def readNumeral (atEnd : Cause) (c : Cursor) : Except Error (Numeral × Cursor) := do
  let negative := c.rest.head? = some '-'
  let c := if negative then c.next else c
  let (whole, c) ← readWhole atEnd c
  let (fraction, c) ← readFraction atEnd c
  let (exponent, c) ← readExponent atEnd c
  .ok (⟨negative, whole, fraction, exponent⟩, c)

/-! ## The value of a numeral -/

/-- The value of a decimal digit. -/
def digitValue (c : Char) : Nat := c.toNat - '0'.toNat

/-- Adds digits to a significand for as long as it fits into 64 bits, and counts the digits
added. -/
def gather (significand : Nat) : List Char → Nat × Nat
  | [] => (significand, 0)
  | d :: rest =>
    let longer := 10 * significand + digitValue d
    if longer ≤ maxWord then
      let (all, count) := gather longer rest
      (all, count + 1)
    else (significand, 0)

/-- The largest power of ten that is applied at once. -/
def maxPower : Nat := 308

/-- Divides by `10 ^ maxPower` a number of times, for as long as the number is not zero, and then
by `10 ^ last`. -/
def divideByPowers (last : Nat) : Nat → Binary64 → Option Binary64
  | 0, x => do x.div? (← Binary64.ofNat? (tenPow last))
  | blocks + 1, x =>
    if x.isZero then some x
    else do divideByPowers last blocks (← x.div? (← Binary64.ofNat? (tenPow maxPower)))

/-- The number `significand * 10 ^ exponent`, by one multiplication or by divisions; none when it
is too large. -/
def scale? (significand : Nat) (exponent : Int) : Option Binary64 := do
  let x ← Binary64.ofNat? significand
  if exponent < 0 then
    let size := exponent.natAbs
    let blocks := (size - 1) / maxPower
    divideByPowers (size - blocks * maxPower) blocks x
  else if exponent ≤ maxPower then x.mul? (← Binary64.ofNat? (tenPow exponent.toNat))
  else if x.isZero then some x
  else none

namespace Numeral

/-- The exponent as a number. -/
def exponentValue (n : Numeral) : Int :=
  match n.exponent with
  | none => 0
  | some (true, digits) => -(Decimal.ofDigits 0 digits : Int)
  | some (false, digits) => Decimal.ofDigits 0 digits

/-- The floating-point number of a numeral whose integral digits gave `significand`, `dropped` of
them being left out. -/
def real? (n : Numeral) (significand dropped : Nat) : Option Binary64 := do
  let (all, count) := gather significand (n.fraction.getD [])
  let x ← scale? all (n.exponentValue + dropped - count)
  some (if n.negative then x.neg else x)

/-- The value of a numeral: a whole number when it has neither point nor exponent and fits into
64 bits, with the sign or without one; none when it is too large. -/
def value? (n : Numeral) : Option Number :=
  let (significand, count) := gather 0 n.whole
  let dropped := n.whole.length - count
  if n.fraction = none ∧ n.exponent = none ∧ dropped = 0 then
    if !n.negative then some (.integer significand)
    else if 0 < significand ∧ significand ≤ maxSigned + 1 then some (.integer (-significand))
    else (n.real? significand 0).map .real
  else (n.real? significand dropped).map .real

/-- The number of digits after those with which `high` first exceeds 31 bits. -/
def digitsBeyond (high : Nat) : List Char → Nat
  | [] => 0
  | d :: rest =>
    let longer := 10 * high + digitValue d
    if longer ≤ 2147483647 then digitsBeyond longer rest else rest.length

/-- How many characters of the exponent need not be read to see that the number is too large. -/
def unread (n : Numeral) : Nat :=
  match n.exponent with
  | none => 0
  | some (_, digits) => digitsBeyond 0 digits

end Numeral

/-- Reads a number. -/
def readNumber (c : Cursor) : Except Error (Number × Cursor) := do
  let (n, c) ← readNumeral .endInValue c
  match n.value? with
  | some x => .ok (x, c)
  | none => failAt ⟨c.place.line, c.place.column - n.unread⟩ .numberOutOfRange

end LinkWatch.Json
