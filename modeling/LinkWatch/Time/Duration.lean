/-
# Spans of time

A span is a number of nanoseconds.  Its text uses the largest unit of which there is at least
one, and as many decimals as it takes.
-/
import LinkWatch.Number.Power

namespace LinkWatch

/-- Nanoseconds in a millisecond. -/
def nanosPerMilli : Nat := 1000000

/-- Nanoseconds in a second. -/
def nanosPerSecond : Nat := 1000000000

/-- A whole number of milliseconds, in nanoseconds. -/
def millis (n : Nat) : Nat := n * nanosPerMilli

namespace Duration

/-- The decimals of `part / 10 ^ places`, without zeros at the end. -/
def decimals (part places : Nat) : List Char :=
  let digits := Nat.toDigits 10 part
  let padded := List.replicate (places - digits.length) '0' ++ digits
  (padded.reverse.dropWhile (· == '0')).reverse

/-- A number of nanoseconds in a unit of `10 ^ places` of them. -/
def inUnit (nanos places : Nat) (unit : String) : String :=
  let fraction := decimals (nanos % tenPow places) places
  toString (nanos / tenPow places) ++
    String.ofList (if fraction = [] then [] else '.' :: fraction) ++ unit

/-- The text of a span. -/
def text (nanos : Nat) : String :=
  if 1000000000 ≤ nanos then inUnit nanos 9 "s"
  else if 1000000 ≤ nanos then inUnit nanos 6 "ms"
  else if 1000 ≤ nanos then inUnit nanos 3 "µs"
  else inUnit nanos 0 "ns"

end Duration

end LinkWatch
