/-
# Making a background clock
-/
import LinkWatch.Config.ClockMode
import LinkWatch.Heartbeat.Clock

namespace LinkWatch

/-- The background clock of a mode, if the mode has one. A clock on a thread keeps its own time; one
that runs beside the watchdog needs a runtime to run in. -/
def spawnClock (mode : ClockMode) (runtime : Bool) : Except Fault (Option WiredClock) :=
  match mode with
  | .disabled => .ok none
  | .thread => .ok (some .remote)
  | .task => if runtime then .ok (some .new) else .error (.worker .noRuntime)

end LinkWatch
