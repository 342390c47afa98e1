/-
# The demonstration

A watchdog against a server in memory, with a script: the network comes, the server makes the
heartbeat faster, the network goes, and it comes back.
-/
import LinkWatch.Number.Binary64
import LinkWatch.Simulation.World

namespace LinkWatch.Demo

/-! ## The script -/

/-- A step of the script. -/
inductive Step where
  | connectivity (online : Bool)
  | directive (payload : String)
deriving DecidableEq

def Step.text : Step → String
  | .connectivity online => "Connectivity(" ++ (if online then "true" else "false") ++ ")"
  | .directive payload => "Directive(String(" ++ Text.quoted payload ++ "))"

/-- The length of a demonstration in seconds. -/
def length (seconds : UInt64) : Nat := max seconds.toNat 4

/-- The steps of a demonstration at their times in nanoseconds, a quarter of its length apart.
There are none when three times its length is no number of 64 bits. -/
def scenario? (seconds : UInt64) : Option (List (Nat × Step)) :=
  let total := length seconds * nanosPerSecond
  if 3 * length seconds ≤ maxWord then
    some [
      (0, .connectivity true),
      (total / 4, .directive "1"),
      (total / 2, .connectivity false),
      (total * 3 / 4, .connectivity true)]
  else none

/-- What is said of a demonstration that is too long. -/
def tooLong : String := "overflow when multiplying duration by scalar"

/-! ## Carrying it out -/

/-- A time in seconds as a floating-point number.  The whole seconds are rounded, then the rest, and
then the sum of the two. -/
def inSeconds? (nanos : Nat) : Option Binary64 := do
  let whole ← Binary64.ofNat? (nanos / nanosPerSecond)
  let rest ← Binary64.ofNat? (nanos % nanosPerSecond)
  whole.addMagnitudes? (← rest.div? (← Binary64.ofNat? nanosPerSecond))

/-- A time in seconds with one decimal. -/
def secondsText (nanos : Nat) : String :=
  match inSeconds? nanos with
  | some x =>
    let tenths := roundHalfEven (10 * x.units) Binary64.unitsPerOne
    toString (tenths / 10) ++ "." ++ toString (tenths % 10)
  | none => "inf"

/-- A text with blanks before it, up to a width. -/
def alignRight (width : Nat) (s : String) : String :=
  String.ofList (List.replicate (width - s.length) ' ') ++ s

/-- The line that announces a step. -/
def stepLine (nanos : Nat) (s : Step) : String :=
  "[" ++ alignRight 5 (secondsText nanos) ++ "s] " ++ s.text

/-- Carries out a step. -/
def act (w : Simulation.World) : Step → Simulation.World
  | .connectivity online => (w.sendSignals [online]).2
  | .directive payload => (w.inject [⟨Event.setInterval, .string payload⟩]).2

/-- Waits for a time in nanoseconds. -/
def waitUntil (nanos : Nat) (w : Simulation.World) : Simulation.World :=
  w.advance (nanos / nanosPerMilli - w.now)

/-- Carries out the steps at their times. -/
def perform (steps : List (Nat × Step)) (w : Simulation.World) : Simulation.World :=
  steps.foldl (fun w (nanos, s) => act (waitUntil nanos w) s) w

/-- How moments are written. -/
structure Stamps where
  timeOfDay : Timestamp → String := Timestamp.preciseTimeOfDay
  full : Timestamp → String := Timestamp.text

/-- What is printed at the end. -/
def summary (stamps : Stamps) (w : Simulation.World) : List String :=
  ["", toString (w.channel.emittedCount Event.heartbeat) ++ " heartbeats emitted:"] ++
    (w.channel.emitted.map fun e => "  " ++ stamps.timeOfDay e.time ++ " " ++ e.name) ++
    ["", (w.watchdog.status.toJsonWith stamps.full).indentedText]

/-- The configuration of a demonstration. -/
def config : HeartbeatConfig := { clock := .task }

/-- The world at the end of a demonstration of some length. -/
def ending (total : Nat) (steps : List (Nat × Step)) (w : Simulation.World) : Simulation.World :=
  (waitUntil total (perform steps ((w.bind .logger).start).2)).shutdown

/-- A demonstration: what is printed; `none` when it is too long. The moment at its beginning is
given. -/
def run (seconds : UInt64) (epoch : Timestamp) (stamps : Stamps) :
    Option (Except Fault (List String)) :=
  (scenario? seconds).map fun steps =>
    (Simulation.World.ofConfig config true).map fun w =>
      (steps.map fun (nanos, s) => stepLine nanos s) ++
        summary stamps (ending (length seconds * nanosPerSecond) steps { w with epoch })

end LinkWatch.Demo
