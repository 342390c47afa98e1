/-
# A channel without a network

Events that are sent are recorded, and events from the server are put in by hand.
-/
import LinkWatch.Channel.Broadcast
import LinkWatch.Channel.Event
import LinkWatch.Fault
import LinkWatch.Time.Timestamp

namespace LinkWatch

/-- How many events from the server a channel keeps for slow readers. -/
def inboundBuffer : Nat := 64

/-- An event that was sent. -/
structure Emitted where
  name : String
  payload? : Option Json.Value
  time : Timestamp

/-- A channel that only remembers. -/
structure Loopback where
  connected : Bool := true
  /-- What was sent, latest first. -/
  history : List Emitted := []
  inbound : Broadcast Event := { capacity := inboundBuffer }

namespace Loopback

/-- The name of the channel. -/
def name : String := "loopback"

/-- Sends an event; this fails while the channel is not connected. -/
def emit (time : Timestamp) (event : String) (payload? : Option Json.Value) (l : Loopback) :
    Except Fault Loopback :=
  if l.connected then .ok { l with history := ⟨event, payload?, time⟩ :: l.history }
  else .error (.disconnected name)

/-- What was sent, in order. -/
def emitted (l : Loopback) : List Emitted := l.history.reverse

/-- Puts in events from the server. -/
def inject (events : List Event) (l : Loopback) : Loopback :=
  { l with inbound := l.inbound.sendAll events }

/-- How many events of a name were sent. -/
def emittedCount (event : String) (l : Loopback) : Nat :=
  (l.history.filter (·.name == event)).length

/-- Forgets what was sent. -/
def clear (l : Loopback) : Loopback := { l with history := [] }

end Loopback

end LinkWatch
