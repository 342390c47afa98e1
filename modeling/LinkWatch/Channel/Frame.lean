/-
# Frames

On the wire an event is a JSON list in a text of its own: its name, and its payload unless there
is none.
-/
import LinkWatch.Channel.Event
import LinkWatch.Fault
import LinkWatch.Text.Blank

namespace LinkWatch.Frame

/-- The frame of an event. -/
def encode (name : String) (payload? : Option Json.Value) : String :=
  Json.Value.text (.list (.string name :: payload?.toList))

/-- Reads a JSON value as an event; items after the payload are ignored. -/
def eventOf : Json.Value → Except ChannelFault Event
  | .list (.string name :: rest) => .ok ⟨name, rest.head?.getD .null⟩
  | .list _ => .error .noName
  | v => .error (.notAList v)

/-- Reads the frame of an event, with blanks around it. -/
def decode (text : String) : Except Fault Event := do
  let v ← (Json.parseChars (Text.trimBlanks text.toList)).mapError .json
  (eventOf v).mapError .channel

end LinkWatch.Frame
