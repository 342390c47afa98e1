/-
# The heartbeat interval as the server gives it

A number of seconds, possibly with a fraction, as a JSON number or as a string that holds a
decimal number.  It is rounded to milliseconds, and refused when that leaves none.
-/
import LinkWatch.Channel.Event
import LinkWatch.Fault
import LinkWatch.Text.Blank

namespace LinkWatch

namespace Interval

/-- The seconds that a payload stands for, when it is a number in one of the two forms. -/
def seconds? : Json.Value → Option Binary64
  | .number n => n.toBinary64?
  | .string s => (Decimal.parse? (Text.trim s)).bind Decimal.toBinary64?
  | _ => none

/-- The milliseconds in a number of seconds: the product is rounded twice, first to a
floating-point number and then to a whole one. What is too large becomes the largest number of 64
bits, and what is less than one millisecond is no interval. -/
def millis? (seconds : Binary64) : Option UInt64 := do
  let thousand ← Binary64.ofNat? 1000
  match seconds.mul? thousand with
  | some product =>
    let millis := product.roundMagnitude
    if product.negative ∨ millis = 0 then none
    else some (UInt64.ofNat (min millis maxWord))
  | none => if seconds.negative then none else some (UInt64.ofNat maxWord)

/-- The interval that a payload sets, in milliseconds. -/
def ofPayload (payload : Json.Value) : Except Fault UInt64 :=
  match (seconds? payload).bind millis? with
  | some intervalMs => .ok intervalMs
  | none => .error (.invalidInterval payload.text)

end Interval

/-- What the server can ask for. -/
inductive Directive where
  | setInterval (intervalMs : UInt64)
deriving DecidableEq

/-- The directive that an event is, if it is one; its payload may be malformed. -/
def Directive.ofEvent? (e : Event) : Option (Except Fault Directive) :=
  if e.name = Event.setInterval then some ((Interval.ofPayload e.payload).map .setInterval)
  else none

end LinkWatch
