/-
# Events

What client and server send to each other: a name, with a payload that is `null` when there is
none.
-/
import LinkWatch.Json.Record

namespace LinkWatch

/-- An event from the server. -/
structure Event where
  name : String
  payload : Json.Value

namespace Event

/-- The event by which the client shows that it is alive. -/
def heartbeat : String := "client_heartbeat"

/-- The event by which the server sets the heartbeat interval, in seconds. -/
def setInterval : String := "set_heartbeat_emit_interval"

/-- Equality of events, payloads being compared as JSON values. -/
def same (a b : Event) : Bool := a.name == b.name && a.payload.sameValue b.payload

/-- An event as a JSON object. -/
def toJson (e : Event) : Json.Value := .object [("name", .string e.name), ("payload", e.payload)]

/-- The fields of an event as far as they have been read. -/
structure Draft where
  name? : Option String
  payload? : Option Json.Value

/-- How an event is read from JSON. -/
def record : Json.Record Draft Event where
  name := "InboundEvent"
  start := ⟨none, none⟩
  fields := [
    .of "name" .string fun name p => { p with name? := some name },
    .of "payload" .value fun payload p => { p with payload? := some payload }]
  whole := true
  finish p := do
    let name ← Json.require "name" p.name?
    let payload ← Json.require "payload" p.payload?
    .ok ⟨name, payload⟩

end Event

end LinkWatch
