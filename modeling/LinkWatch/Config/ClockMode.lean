/-
# Where the background clock runs
-/
import LinkWatch.Fault
import LinkWatch.Json.Record
import LinkWatch.Text.Blank
import LinkWatch.Text.CaseMap

namespace LinkWatch

/-- Where the background clock runs. -/
inductive ClockMode where
  /-- On a thread of its own. -/
  | thread
  /-- Beside the watchdog. -/
  | task
  /-- Nowhere: there is only the foreground timer. -/
  | disabled
deriving DecidableEq

namespace ClockMode

/-- The modes with their names. -/
def names : List (String × ClockMode) :=
  [("thread", .thread), ("task", .task), ("disabled", .disabled)]

def name : ClockMode → String
  | .thread => "thread"
  | .task => "task"
  | .disabled => "disabled"

/-- The mode of a name in small letters; there are two more names for `disabled`. -/
def ofName? (name : String) : Option ClockMode :=
  if name = "thread" then some .thread
  else if name = "task" then some .task
  else if name = "disabled" ∨ name = "off" ∨ name = "none" then some .disabled
  else none

/-- Reads a mode in letters of either case, with blanks around it. -/
def parse (s : String) : Except ConfigFault ClockMode :=
  let name := Text.lowercase (Text.trim s)
  match ofName? name with
  | some mode => .ok mode
  | none => .error (.unknownClockMode name)

/-- A mode in JSON is its name. -/
def decoder : Json.Decoder ClockMode := .oneOf names

def toJson (m : ClockMode) : Json.Value := .string m.name

end ClockMode

end LinkWatch
