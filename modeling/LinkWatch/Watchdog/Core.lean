/-
# The watchdog

While the network is there, a foreground timer sends a heartbeat every interval, and a background
clock is told to tick at the same interval, so that the two can be compared.  The server may
change the interval at any time.

`Core` is all that the event loop owns, and `Core.step` one turn of the loop: what happened, at
which moment, and what is done about it.  A heartbeat takes two turns, since sending it may take
time: the turn in which the timer ticks, and the turn in which the channel has answered.
-/
import LinkWatch.Heartbeat.Clock
import LinkWatch.Heartbeat.Interval
import LinkWatch.Watchdog.Indicator
import LinkWatch.Watchdog.Log

namespace LinkWatch

/-- The state of the event loop. -/
structure Core where
  config : HeartbeatConfig
  /-- The foreground timer. -/
  timer : Timer
  /-- Whether the watchdog holds the link to a background clock. -/
  workerHeld : Bool
  status : Status
  /-- The snapshot that others see. -/
  published : Status
  /-- The instant of the last foreground tick since the network came. -/
  lastForegroundPing? : Option Nat := none
  /-- The instant of the last background tick since the network came. -/
  lastBackgroundPing? : Option Nat := none
  indicators : Indicators := {}
  /-- Whether a heartbeat is being sent. -/
  emitting : Bool := false

/-- The circumstances of a turn. -/
structure Moment where
  /-- The instant, in nanoseconds. -/
  now : Nat
  /-- The same in universal time. -/
  wall : Timestamp
  /-- Whether the background clock takes commands. -/
  listening : Bool

/-- What the event loop has to deal with. -/
inductive Incident where
  /-- The network came or went, or is said to be as before. -/
  | signal (online : Bool)
  | signalsClosed
  | inbound (event : Event)
  /-- Events of the server were missed. -/
  | missed (count : Nat)
  | inboundClosed
  /-- Somebody asked for another interval. -/
  | setInterval (intervalMs : UInt64)
  /-- The background clock ticked. -/
  | workerTick
  /-- The background clock went away. -/
  | workerGone
  /-- The foreground timer is due. -/
  | due
  /-- The channel has taken or refused the heartbeat. -/
  | emitted (result : Except Fault Unit)

/-- What the event loop does to the world around it. -/
inductive Effect where
  | command (command : ClockCommand)
  /-- The link to the background clock is dropped. -/
  | release
  /-- A heartbeat is handed to the channel. -/
  | emit
  | notice (notice : Notice)
  /-- A changed snapshot is shown. -/
  | publish (status : Status)
  | log (line : LogLine)

/-- How far two ticks were from being one interval apart, in milliseconds. -/
def driftMs (elapsedNanos : Nat) (intervalMs : UInt64) : Int :=
  (min (elapsedNanos / nanosPerMilli) maxSigned : Nat) - (min intervalMs.toNat maxSigned : Nat)

namespace Core

/-- The state before the loop runs. -/
def new (config : HeartbeatConfig) (workerHeld : Bool) : Core :=
  let status := Status.initial config.intervalMs workerHeld
  { config, workerHeld, status, published := status
    timer := .new (millis config.intervalMs.toNat) }

/-! ## The parts of a turn -/

/-- Sends a command to the background clock, if there is one. A clock that takes no commands is
given up. -/
def sendWorker (m : Moment) (command : ClockCommand) (c : Core) : Core × List Effect :=
  if c.workerHeld then
    if m.listening then (c, [.command command])
    else ({ c with workerHeld := false }, [.log (.clockLost (.worker .exited)), .release])
  else (c, [])

/-- Tells the indicators a value. -/
def tellIndicators (online : Bool) (c : Core) : Core × List Effect :=
  let (notices, indicators) := c.indicators.tell online
  ({ c with indicators }, notices.map .notice)

/-- The network came. -/
def goOnline (m : Moment) (c : Core) : Core × List Effect :=
  let c := { c with status.onLine := true, timer := c.timer.start m.now }
  let (c, sent) := c.sendWorker m (.start c.status.intervalMs)
  let (c, told) := c.tellIndicators true
  (c, sent ++ .log (.wentOnline c.status.intervalMs) :: told)

/-- The network went. The ticks before it went are forgotten, because the gap up to the next one
would look like drift. -/
def goOffline (m : Moment) (c : Core) : Core × List Effect :=
  let c := { c with status.onLine := false, timer := c.timer.stop }
  let (c, sent) := c.sendWorker m .stop
  let c := { c with lastForegroundPing? := none, lastBackgroundPing? := none }
  let (c, told) := c.tellIndicators false
  (c, sent ++ .log .wentOffline :: told)

/-- Deals with a signal about the network. -/
def applySignal (m : Moment) (online : Bool) (c : Core) : Core × List Effect :=
  if online = c.status.onLine then (c, [.log (.unchangedState c.status.state)])
  else if online then c.goOnline m
  else c.goOffline m

/-- Sets the interval to one within the bounds. -/
def changeInterval (m : Moment) (intervalMs : UInt64) (c : Core) : Core × List Effect :=
  if intervalMs = c.status.intervalMs then (c, [.log (.unchangedInterval intervalMs)])
  else
    let c := { c with
      status.intervalMs := intervalMs
      timer := c.timer.setPeriod m.now (millis intervalMs.toNat) }
    let (c, sent) := if c.status.onLine then c.sendWorker m (.start intervalMs) else (c, [])
    (c, sent ++ [.log (.setInterval intervalMs)])

/-- Deals with a request for an interval, which is moved into the bounds. -/
def applyInterval (m : Moment) (requestedMs : UInt64) (c : Core) : Core × List Effect :=
  let intervalMs := c.config.clamp requestedMs
  let (c, effects) := c.changeInterval m intervalMs
  (c, (if intervalMs = requestedMs then [] else [.log (.clamped requestedMs intervalMs)]) ++
    effects)

/-- Deals with an event of the server. -/
def handleEvent (m : Moment) (e : Event) (c : Core) : Core × List Effect :=
  match Directive.ofEvent? e with
  | none => (c, [])
  | some (.ok (.setInterval intervalMs)) => c.applyInterval m intervalMs
  | some (.error fault) =>
    ({ c with status.rejectedDirectives := c.status.rejectedDirectives + 1 },
      [.log (.rejectedDirective e.name fault)])

/-- Takes a foreground tick that is due and hands a heartbeat to the channel. -/
def beginPing (m : Moment) (c : Core) : Core × List Effect :=
  match c.timer.tick? m.now with
  | none => (c, [])
  | some (_, timer) =>
    let drift? := c.lastForegroundPing?.map fun last => driftMs (m.now - last) c.status.intervalMs
    ({ c with
        timer
        status.foregroundDriftMs? := drift?.or c.status.foregroundDriftMs?
        status.lastForegroundPing? := some m.wall
        lastForegroundPing? := some m.now
        emitting := true },
      (if c.config.logDrift then drift?.toList.map fun d => .log (.foregroundOffset d) else []) ++
        [.emit])

/-- Counts the heartbeat that the channel has taken or refused. -/
def endPing (result : Except Fault Unit) (c : Core) : Core × List Effect :=
  match result with
  | .ok () =>
    ({ c with status.heartbeatsSent := c.status.heartbeatsSent + 1, emitting := false }, [])
  | .error fault =>
    ({ c with status.emitFailures := c.status.emitFailures + 1, emitting := false },
      [.log (.notDelivered fault)])

/-- Counts a tick of the background clock. -/
def backgroundTick (m : Moment) (c : Core) : Core × List Effect :=
  let drift? := c.lastBackgroundPing?.map fun last => driftMs (m.now - last) c.status.intervalMs
  ({ c with
      status.backgroundDriftMs? := drift?.or c.status.backgroundDriftMs?
      status.lastBackgroundPing? := some m.wall
      status.backgroundTicks := c.status.backgroundTicks + 1
      lastBackgroundPing? := some m.now },
    if c.config.logDrift then drift?.toList.map fun d => .log (.backgroundOffset d) else [])

/-- The snapshot of the present state. -/
def snapshot (c : Core) : Status :=
  { c.status with foregroundRunning := c.timer.isRunning, workerAvailable := c.workerHeld }

/-- Shows the present snapshot, if it differs from the one shown before. -/
def publish (c : Core) : Core × List Effect :=
  let status := c.snapshot
  ({ c with status, published := status },
    if status = c.published then [] else [.publish status])

/-! ## A turn of the loop -/

/-- Deals with an incident. -/
def handle (m : Moment) (c : Core) : Incident → Core × List Effect
  | .signal online => c.applySignal m online
  | .signalsClosed => (c, [.log (.signalsClosed c.status.state)])
  | .inbound e => c.handleEvent m e
  | .missed count => (c, [.log (.missedEvents count)])
  | .inboundClosed => (c, [.log .inboundClosed])
  | .setInterval intervalMs => c.applyInterval m intervalMs
  | .workerTick => c.backgroundTick m
  | .workerGone => ({ c with workerHeld := false }, [.log .clockExited, .release])
  | .due => c.beginPing m
  | .emitted result => c.endPing result

/-- One turn: the incident is dealt with, and unless a heartbeat is under way the snapshot is
shown. -/
def step (m : Moment) (c : Core) (i : Incident) : Core × List Effect :=
  let (c, effects) := c.handle m i
  if c.emitting then (c, effects)
  else
    let (c, shown) := c.publish
    (c, effects ++ shown)

/-- The end of the loop: both timers are stopped and the link is dropped. -/
def finish (m : Moment) (c : Core) : Core × List Effect :=
  let c := { c with timer := c.timer.stop }
  let (c, sent) := c.sendWorker m .stop
  let (c, shown) := c.publish
  (c, sent ++ shown ++ [.log .stopped, .release])

end Core

end LinkWatch
