/-
# Moments in universal time

A moment to the nanosecond, written as date and time with the mark `Z`.  The reader is lenient:
it takes any offset from universal time, blanks around the numbers, and a leap second.
-/
import LinkWatch.Json.Decoder
import LinkWatch.Text.Blank
import LinkWatch.Text.Size
import LinkWatch.Time.Calendar

namespace LinkWatch

/-- A moment. A leap second is counted as part of the second before it, whose nanoseconds then
go on beyond a thousand million. -/
structure Timestamp where
  /-- Days since 1 March of year 0. -/
  days : Int
  /-- Seconds since midnight. -/
  seconds : Nat
  nanos : Nat
deriving DecidableEq

namespace Timestamp

/-- The beginning of the year 1970. -/
def epoch : Timestamp := ⟨719468, 0, 0⟩

/-- The moment that is a number of milliseconds later. -/
def addMillis (t : Timestamp) (n : Nat) : Timestamp :=
  let nanos := t.nanos + n % 1000 * 1000000
  let seconds := t.seconds + n / 1000 + nanos / 1000000000
  ⟨t.days + (seconds / 86400 : Nat), seconds % 86400, nanos % 1000000000⟩

/-! ## Writing -/

/-- A number with at least `width` digits. -/
def padded (width n : Nat) : List Char :=
  let digits := Nat.toDigits 10 n
  List.replicate (width - digits.length) '0' ++ digits

/-- A year, with a sign when it is not of four digits. -/
def yearChars (year : Int) : List Char :=
  if 0 ≤ year ∧ year ≤ 9999 then padded 4 year.natAbs
  else (if year < 0 then '-' else '+') :: padded 4 year.natAbs

/-- A fraction of a second in three, six or nine decimals, or none when it is zero. -/
def fractionChars (nanos : Nat) : List Char :=
  if nanos = 0 then []
  else if nanos % 1000000 = 0 then '.' :: padded 3 (nanos / 1000000)
  else if nanos % 1000 = 0 then '.' :: padded 6 (nanos / 1000)
  else '.' :: padded 9 nanos

/-- The second of the minute and the nanoseconds in it, the leap second being the sixtieth. -/
def secondAndNanos (t : Timestamp) : Nat × Nat :=
  if t.nanos < 1000000000 then (t.seconds % 60, t.nanos)
  else (t.seconds % 60 + 1, t.nanos - 1000000000)

/-- The text of a moment. -/
def text (t : Timestamp) : String :=
  let date := Date.ofDays t.days
  let (second, nanos) := t.secondAndNanos
  String.ofList (yearChars date.year ++ '-' :: padded 2 date.month ++ '-' :: padded 2 date.day ++
    'T' :: padded 2 (t.seconds / 3600) ++ ':' :: padded 2 (t.seconds / 60 % 60) ++
    ':' :: padded 2 second ++ fractionChars nanos ++ ['Z'])

/-- The time of day, to the second. -/
def timeOfDay (t : Timestamp) : String :=
  String.ofList (padded 2 (t.seconds / 3600) ++ ':' :: padded 2 (t.seconds / 60 % 60) ++
    ':' :: padded 2 t.secondAndNanos.1)

/-- The time of day, to the millisecond. -/
def preciseTimeOfDay (t : Timestamp) : String :=
  t.timeOfDay ++ String.ofList ('.' :: padded 3 (t.secondAndNanos.2 / 1000000))

/-! ## Reading -/

/-- Why a text is not a moment. -/
inductive Refusal where
  | outOfRange
  | impossible
  | invalid
  | tooShort
  | tooLong
deriving DecidableEq

def Refusal.message : Refusal → String
  | .outOfRange => "input is out of range"
  | .impossible => "no possible date and time matching input"
  | .invalid => "input contains invalid characters"
  | .tooShort => "premature end of input"
  | .tooLong => "trailing input"

/-- The characters without the blanks at the front. -/
def dropBlanks (cs : List Char) : List Char := cs.dropWhile Text.isBlank

/-- Reads at least one digit and at most `width` of them, if there is such a limit. -/
def readNumber (width : Option Nat) (cs : List Char) : Except Refusal (Nat × List Char) :=
  match cs with
  | [] => .error .tooShort
  | c :: _ =>
    if c.isDigit then
      let digits := (match width with
        | some n => cs.take n
        | none => cs).takeWhile Char.isDigit
      let n := Decimal.ofDigits 0 digits
      if n ≤ maxSigned then .ok (n, cs.drop digits.length) else .error .outOfRange
    else .error .invalid

/-- Reads a number of two digits at most, after blanks, that lies in a range. -/
def readPart (low high : Nat) (cs : List Char) : Except Refusal (Nat × List Char) := do
  let (n, cs) ← readNumber (some 2) (dropBlanks cs)
  if low ≤ n ∧ n ≤ high then .ok (n, cs) else .error .outOfRange

/-- Moves over one given character, after blanks. -/
def skipMark (mark : Char) (cs : List Char) : Except Refusal (List Char) :=
  match dropBlanks cs with
  | [] => .error .tooShort
  | c :: rest => if c = mark then .ok rest else .error .invalid

/-- Reads a year: four digits at most, or any number after a sign. -/
def readYear (cs : List Char) : Except Refusal (Int × List Char) := do
  let cs := dropBlanks cs
  let (year, cs) ← match cs with
    | '-' :: rest => do
      let (n, cs) ← readNumber none rest
      .ok (-(n : Int), cs)
    | '+' :: rest => do
      let (n, cs) ← readNumber none rest
      .ok ((n : Int), cs)
    | _ => do
      let (n, cs) ← readNumber (some 4) cs
      .ok ((n : Int), cs)
  if -2147483648 ≤ year ∧ year ≤ 2147483647 then .ok (year, cs) else .error .outOfRange

/-- Moves over the mark between date and time. -/
def skipSeparator : List Char → Except Refusal (List Char)
  | [] => .error .tooShort
  | c :: rest => if c = 't' ∨ c = 'T' ∨ c = ' ' then .ok rest else .error .invalid

/-- Reads a fraction of a second, if there is one; digits after the ninth are dropped. -/
def readNanos : List Char → Except Refusal (Nat × List Char)
  | '.' :: rest => do
    let (n, after) ← readNumber (some 9) rest
    .ok (n * tenPow (9 - (rest.length - after.length)), after.dropWhile Char.isDigit)
  | cs => .ok (0, cs)

/-- The sign of an offset. -/
def readSign : List Char → Except Refusal (Bool × List Char)
  | [] => .error .tooShort
  | c :: rest =>
    if c = '+' then .ok (false, rest)
    else if c = '-' ∨ c = '−' then .ok (true, rest)
    else .error .invalid

/-- Reads exactly two digits. -/
def readTwoDigits : List Char → Except Refusal (Nat × List Char)
  | a :: b :: rest =>
    if a.isDigit ∧ b.isDigit then .ok (Decimal.ofDigits 0 [a, b], rest) else .error .invalid
  | cs => .error (if Text.byteSize cs < 2 then .tooShort else .invalid)

/-- Reads an offset from universal time, in seconds. -/
def readOffset (cs : List Char) : Except Refusal (Int × List Char) :=
  if cs.head? = some 'Z' ∨ cs.head? = some 'z' then .ok (0, cs.drop 1)
  else do
    let (negative, cs) ← readSign cs
    let (hours, cs) ← readTwoDigits cs
    let (minutes, cs) ← readTwoDigits (cs.dropWhile fun c => c = ':' || Text.isBlank c)
    if 60 ≤ minutes then .error .outOfRange
    else
      let size : Int := hours * 3600 + minutes * 60
      .ok (if negative then -size else size, cs)

/-- Reads the zone: the letters `UTC` in either case, or an offset. -/
def readZone (cs : List Char) : Except Refusal (Int × List Char) :=
  let cs := dropBlanks cs
  if (cs.take 3).map Char.toUpper = ['U', 'T', 'C'] then .ok (0, cs.drop 3) else readOffset cs

/-- The first and the last year of the calendar used for moments. -/
def firstYear : Int := -262143

@[inherit_doc firstYear]
def lastYear : Int := 262142

/-- The moment at which a clock that is `offset` seconds ahead of universal time shows a date and
a time. -/
def ofLocal (date : Date) (hour minute second nanos : Nat) (offset : Int) :
    Except Refusal Timestamp :=
  if ¬(firstYear ≤ date.year ∧ date.year ≤ lastYear ∧ date.isValid) then .error .outOfRange
  else if ¬(-86400 < offset ∧ offset < 86400) then .error .outOfRange
  else
    let leap := second = 60
    let elapsed : Int := hour * 3600 + minute * 60 + (if leap then 59 else second : Nat) - offset
    let days := date.toDays + elapsed / 86400
    let year := (Date.ofDays days).year
    if firstYear ≤ year ∧ year ≤ lastYear then
      .ok ⟨days, (elapsed % 86400).toNat, if leap then nanos + 1000000000 else nanos⟩
    else .error .impossible

/-- Reads a whole text as a moment. -/
def parse (s : String) : Except Refusal Timestamp := do
  let (year, cs) ← readYear s.toList
  let cs ← skipMark '-' cs
  let (month, cs) ← readPart 1 12 cs
  let cs ← skipMark '-' cs
  let (day, cs) ← readPart 1 31 cs
  let cs ← skipSeparator cs
  let (hour, cs) ← readPart 0 23 cs
  let cs ← skipMark ':' cs
  let (minute, cs) ← readPart 0 59 cs
  let cs ← skipMark ':' cs
  let (second, cs) ← readPart 0 60 cs
  let (nanos, cs) ← readNanos cs
  let (offset, cs) ← readZone cs
  if dropBlanks cs = [] then ofLocal ⟨year, month, day⟩ hour minute second nanos offset
  else .error .tooLong

/-- A moment in JSON is its text. -/
def decoder : Json.Decoder Timestamp :=
  .stringWith "an RFC 3339 formatted date and time string" fun s =>
    (parse s).mapError fun r => .malformed r.message

end Timestamp

end LinkWatch
