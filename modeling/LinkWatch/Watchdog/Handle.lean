/-
# The handle of a watchdog

What others can do with a watchdog: start it once, ask for another interval, bind an indicator,
look at its snapshot, and shut it down.  Requests wait in a queue for the event loop, also those
made before it was started.
-/
import LinkWatch.Watchdog.Core

namespace LinkWatch

/-- How far a watchdog has come. -/
inductive Phase where
  /-- It was not started yet. -/
  | ready
  /-- The event loop runs. -/
  | running
  /-- It was shut down. -/
  | ended
deriving DecidableEq

/-- What the event loop is asked to do. -/
inductive Request where
  | setInterval (intervalMs : UInt64)
  | shutdown
deriving DecidableEq

/-- A watchdog, with the requests that the event loop has not taken yet. -/
structure Watchdog where
  core : Core
  phase : Phase := .ready
  requests : List Request := []

namespace Watchdog

/-- A watchdog with a valid configuration, with a background clock or without one. -/
def new (config : HeartbeatConfig) (workerHeld : Bool) : Except Fault Watchdog :=
  match config.validate with
  | .ok () => .ok { core := .new config workerHeld }
  | .error fault => .error (.config fault)

/-- The snapshot that everyone sees. -/
def status (w : Watchdog) : Status := w.core.published

/-- Starts the event loop, if it was not started and not shut down before: whether it was started
now. -/
def start (w : Watchdog) : Bool × Watchdog :=
  if w.phase = .ready then (true, { w with phase := .running }) else (false, w)

/-- Asks for an interval, given in nanoseconds. One of less than a millisecond is refused, and what
is too large becomes the largest number of 64 bits. -/
def setInterval (nanos : Nat) (w : Watchdog) : Except Fault Watchdog :=
  let intervalMs := UInt64.ofNat (min (nanos / nanosPerMilli) maxWord)
  if nanos < nanosPerMilli then .error (.invalidInterval (Duration.text nanos))
  else if w.phase = .ended then .error .stopped
  else .ok { w with requests := w.requests ++ [.setInterval intervalMs] }

/-- Binds an indicator. -/
def bindIndicator (i : Indicator) (w : Watchdog) : Notice × Watchdog :=
  let (notice, indicators) := w.core.indicators.bind i
  (notice, { w with core.indicators := indicators })

/-- Asks for the end. A watchdog that was never started ends at once. -/
def shutdown (w : Watchdog) : Watchdog :=
  match w.phase with
  | .ready => { w with phase := .ended, requests := [] }
  | .running => { w with requests := w.requests ++ [.shutdown] }
  | .ended => w

/-- The event loop ends. -/
def finish (m : Moment) (w : Watchdog) : Watchdog × List Effect :=
  let (core, effects) := w.core.finish m
  ({ w with core, phase := .ended, requests := [] }, effects)

end Watchdog

end LinkWatch
