/-
# What the watchdog writes to its log
-/
import LinkWatch.Fault
import LinkWatch.Watchdog.Status

namespace LinkWatch

/-- How important a line of the log is. -/
inductive LogLevel where
  | debug
  | info
  | warn
deriving DecidableEq

def LogLevel.name : LogLevel → String
  | .debug => "DEBUG"
  | .info => "INFO"
  | .warn => "WARN"

/-- Something worth a line in the log. -/
inductive LogLine where
  | clockDisabled
  | clockUnavailable (fault : Fault)
  | started (intervalMs : UInt64) (workerAvailable : Bool)
  | alreadyStarted
  | signalsClosed (state : LinkState)
  | unchangedState (state : LinkState)
  | wentOnline (intervalMs : UInt64)
  | wentOffline
  | missedEvents (count : Nat)
  | inboundClosed
  | rejectedDirective (event : String) (fault : Fault)
  | clamped (requestedMs intervalMs : UInt64)
  | unchangedInterval (intervalMs : UInt64)
  | setInterval (intervalMs : UInt64)
  | foregroundOffset (driftMs : Int)
  | backgroundOffset (driftMs : Int)
  | notDelivered (fault : Fault)
  | emitted (event : String)
  | clockExited
  | clockLost (fault : Fault)
  | stopped
  | indicator (state : LinkState)
  | clockReady
  | clockStarted (intervalMs : UInt64)
  | clockStopped
  | clockEnded

namespace LogLine

def level : LogLine → LogLevel
  | .clockDisabled | .started .. | .wentOnline _ | .wentOffline | .setInterval _ | .stopped
  | .indicator _ | .clockEnded => .info
  | .clockUnavailable _ | .alreadyStarted | .missedEvents _ | .rejectedDirective .. | .clamped ..
  | .clockExited | .clockLost _ => .warn
  | _ => .debug

def message : LogLine → String
  | .clockDisabled => "Background clock disabled, using foreground heartbeats only"
  | .clockUnavailable fault =>
    "Background clock unavailable (" ++ fault.message ++ "), using foreground heartbeats only"
  | .started intervalMs workerAvailable =>
    "Watchdog started (interval=" ++ toString intervalMs ++ "ms, background_clock=" ++
      (if workerAvailable then "true" else "false") ++ ")"
  | .alreadyStarted => "Watchdog already started"
  | .signalsClosed state => "Connectivity signal closed, keeping state " ++ state.name
  | .unchangedState state => "Connectivity unchanged (" ++ state.name ++ ")"
  | .wentOnline intervalMs =>
    "Online, heartbeat started (interval=" ++ toString intervalMs ++ "ms)"
  | .wentOffline => "Offline, heartbeat stopped"
  | .missedEvents count => "Watchdog missed " ++ toString count ++ " inbound events"
  | .inboundClosed => "Inbound event stream closed"
  | .rejectedDirective event fault => "Ignoring " ++ event ++ " directive: " ++ fault.message
  | .clamped requestedMs intervalMs =>
    "Heartbeat interval " ++ toString requestedMs ++ "ms clamped to " ++ toString intervalMs ++
      "ms"
  | .unchangedInterval intervalMs =>
    "Heartbeat interval unchanged (" ++ toString intervalMs ++ "ms)"
  | .setInterval intervalMs => "Heartbeat interval set to " ++ toString intervalMs ++ "ms"
  | .foregroundOffset driftMs => "ping window offset " ++ toString driftMs ++ "ms"
  | .backgroundOffset driftMs => "ping worker offset " ++ toString driftMs ++ "ms"
  | .notDelivered fault => "Heartbeat not delivered: " ++ fault.message
  | .emitted event => "loopback emit: " ++ event
  | .clockExited => "Background clock exited, continuing with foreground heartbeats only"
  | .clockLost fault => fault.message ++ ", continuing with foreground heartbeats only"
  | .stopped => "Watchdog stopped"
  | .indicator state => "Connection indicator: " ++ state.name
  | .clockReady => "Background clock ready"
  | .clockStarted intervalMs => "Background clock started interval_ms=" ++ toString intervalMs
  | .clockStopped => "Background clock stopped"
  | .clockEnded => "Background clock exited"

/-- A line with its level. -/
def text (l : LogLine) : String := l.level.name ++ " " ++ l.message

end LogLine

end LinkWatch
