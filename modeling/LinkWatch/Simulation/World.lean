/-
# A watchdog in virtual time

A watchdog with everything around it, in a time that moves only when it is told to: a channel
whose sending can be slowed down or made to fail, a source of signals about the network, and a
background clock or somebody who plays its part.

Whenever something can be done at the present time it is done before the time moves on.  Of the
sources that the event loop listens to, the first one with something to say is served.
-/
import LinkWatch.Channel.Loopback
import LinkWatch.Heartbeat.Spawn
import LinkWatch.Watchdog.Handle

namespace LinkWatch.Simulation

/-- A heartbeat that is being sent. Times are in milliseconds. -/
structure Sending where
  begun : Nat
  due : Nat
  /-- The failure that it will end in, if any. -/
  failure? : Option String

/-- Something that was observed. -/
inductive Observation where
  /-- A heartbeat was sent or failed; the time is the one at which its sending began. -/
  | heartbeat (begun : Nat) (fault? : Option Fault)
  | notice (notice : Notice)
  | published (status : Status)
  | log (line : LogLine)

/-- The signals about the network. -/
structure Signals where
  /-- The signals that the event loop has not taken yet. -/
  waiting : List Bool := []
  /-- Whether more can come. -/
  sending : Bool := true
  /-- Whether the event loop listens. -/
  heard : Bool := true

namespace Signals

/-- There will be no more signals. -/
def close (s : Signals) : Signals := { s with sending := false }

/-- The event loop listens no more. -/
def mute (s : Signals) : Signals := { s with waiting := [], heard := false }

end Signals

/-- A watchdog and its surroundings. -/
structure World where
  /-- The time, in milliseconds. -/
  now : Nat := 0
  /-- The moment at time zero. -/
  epoch : Timestamp := .epoch
  watchdog : Watchdog
  channel : Loopback := {}
  /-- A source of server events other than the channel. -/
  ownInbound? : Option (Broadcast Event) := none
  /-- The subscription of the event loop. -/
  subscription? : Option Nat := none
  /-- The signals, once the watchdog was started. -/
  signals? : Option Signals := none
  clock : WiredClock
  /-- How long a heartbeat takes to be sent. -/
  delay : Nat := 0
  /-- The failure that sending ends in, if any. -/
  failure? : Option String := none
  sending? : Option Sending := none
  /-- What was observed, latest first. -/
  observed : List Observation := []

namespace World

/-! ## Small steps -/

/-- The source of server events. -/
def inbound (w : World) : Broadcast Event := w.ownInbound?.getD w.channel.inbound

def setInbound (b : Broadcast Event) (w : World) : World :=
  if w.ownInbound?.isSome then { w with ownInbound? := some b }
  else { w with channel.inbound := b }

def observe (o : Observation) (w : World) : World := { w with observed := o :: w.observed }

/-- Forgets what was observed, and gives it in order. -/
def takeObserved (w : World) : List Observation × World :=
  (w.observed.reverse, { w with observed := [] })

/-- An indicator that writes to the log does so when it is told a value. -/
def tell (n : Notice) (w : World) : World :=
  match n.indicator with
  | .named _ => w.observe (.notice n)
  | .logger => w.observe (.log (.indicator (.ofBool n.online)))

/-- The moment at a time. -/
def moment (time : Nat) (w : World) : Moment where
  now := millis time
  wall := w.epoch.addMillis time
  listening := w.clock.link.listening

/-- Does what the event loop wants done. -/
def perform (e : Effect) (w : World) : World :=
  match e with
  | .command command =>
    match w.clock.link.send command with
    | .ok link => { w with clock.link := link }
    | .error _ => w
  | .release => { w with clock.link := w.clock.link.drop }
  | .emit => { w with sending? := some ⟨w.now, w.now + w.delay, w.failure?⟩ }
  | .notice n => w.tell n
  | .publish status => w.observe (.published status)
  | .log line => w.observe (.log line)

def performAll (effects : List Effect) (w : World) : World :=
  effects.foldl (fun w e => w.perform e) w

/-- A turn of the event loop. -/
def turn (i : Incident) (w : World) : World :=
  let (core, effects) := w.watchdog.core.step (w.moment w.now) i
  { w with watchdog.core := core }.performAll effects

/-- The end of the event loop. -/
def finish (w : World) : World :=
  let (watchdog, effects) := w.watchdog.finish (w.moment w.now)
  let w := { w with watchdog }.performAll effects
  let w := match w.subscription? with
    | some id => w.setInbound (w.inbound.unsubscribe id)
    | none => w
  { w with
    subscription? := none
    signals? := w.signals?.map Signals.mute }

/-! ## One turn of whatever is ready -/

/-- The heartbeat that is being sent has arrived, or failed. -/
def deliver (s : Sending) (w : World) : World :=
  let w := { w with sending? := none }
  let sent : Except Fault Loopback := match s.failure? with
    | some message => .error (.channel (.other message))
    | none => w.channel.emit (w.moment w.now).wall Event.heartbeat none
  match sent with
  | .ok channel =>
    ({ w with channel }.observe (.log (.emitted Event.heartbeat))
      |>.observe (.heartbeat s.begun none)).turn (.emitted (.ok ()))
  | .error fault => (w.observe (.heartbeat s.begun (some fault))).turn (.emitted (.error fault))

/-- The event loop takes a signal, or notices that there will be none. -/
def signalTurn? (w : World) : Option World :=
  w.signals?.bind fun s =>
    if ¬s.heard then none
    else match s.waiting with
      | online :: rest => some ({ w with signals? := some { s with waiting := rest } }.turn
          (.signal online))
      | [] =>
        if s.sending then none
        else some ({ w with signals? := some s.mute }.turn .signalsClosed)

/-- The event loop takes an event of the server, or notices that some were missed or that there
will be none. -/
def inboundTurn? (w : World) : Option World := do
  let id ← w.subscription?
  let (received, b) ← w.inbound.receive? id
  let w := w.setInbound b
  match received with
  | .item e => some (w.turn (.inbound e))
  | .lagged missed => some (w.turn (.missed missed))
  | .closed => some ({ w with subscription? := none }.turn .inboundClosed)
  | .nothing => none

/-- The event loop takes a request. -/
def requestTurn? (w : World) : Option World :=
  match w.watchdog.requests with
  | [] => none
  | .setInterval intervalMs :: rest =>
    some ({ w with watchdog.requests := rest }.turn (.setInterval intervalMs))
  | .shutdown :: _ => some w.finish

/-- The event loop takes a tick of the background clock, or notices that it has gone. -/
def workerTurn? (w : World) : Option World :=
  if w.watchdog.core.workerHeld then
    match w.clock.link.receive with
    | .tick link => some ({ w with clock.link := link }.turn .workerTick)
    | .gone => some (w.turn .workerGone)
    | .nothing => none
  else none

/-- The event loop takes a tick of the foreground timer. -/
def timerTurn? (w : World) : Option World :=
  if (w.watchdog.core.timer.tick? (millis w.now)).isSome then some (w.turn .due) else none

/-- The event loop does something, if it can. -/
def loopTurn? (w : World) : Option World :=
  if w.watchdog.phase ≠ .running then none
  else match w.sending? with
    | some s => if s.due ≤ w.now then some (w.deliver s) else none
    | none =>
      w.signalTurn?.or (w.inboundTurn?.or (w.requestTurn?.or (w.workerTurn?.or w.timerTurn?)))

/-- What the background clock writes to the log. -/
def clockLine : WiredClock.Turn → Option LogLine
  | .obeyed (.start intervalMs) => some (.clockStarted intervalMs)
  | .obeyed .stop => some .clockStopped
  | .ticked => none
  | .ended => some .clockEnded

/-- The background clock does something, if it can. -/
def clockTurn? (w : World) : Option World :=
  (w.clock.turn? (millis w.now)).map fun (turn, clock) =>
    let w := { w with clock }
    match clockLine turn with
    | some line => w.observe (.log line)
    | none => w

/-! ## Letting everything happen -/

/-- How much is waiting to be dealt with. -/
def load (w : World) : Nat :=
  ((w.signals?.map fun s => s.waiting.length).getD 0) + w.inbound.recent.length +
    w.watchdog.requests.length + w.clock.link.commands.length + w.clock.link.ticks

/-- Lets everything happen that can happen now, in at most a number of turns. -/
def settleIn : Nat → World → World
  | 0, w => w
  | turns + 1, w =>
    match w.clockTurn?.or w.loopTurn? with
    | some w => settleIn turns w
    | none => w

/-- Lets everything happen that can happen now. What waits takes one turn of the event loop and
perhaps one of the clock each, and a timer is due a few times at most. -/
def settle (w : World) : World := settleIn (4 * w.load + 64) w

/-! ## Moving the time -/

/-- The time in whole milliseconds at which a deadline has passed. -/
def timeOf (deadline : Nat) : Nat := Timer.wakeUp deadline / nanosPerMilli

/-- The earliest time at which something is to happen by itself. -/
def nextTime? (w : World) : Option Nat :=
  let loop := if w.watchdog.phase ≠ .running then none
    else match w.sending? with
      | some s => some s.due
      | none => w.watchdog.core.timer.deadline?.map timeOf
  [loop, w.clock.deadline?.map timeOf].reduceOption.min?

/-- Moves the time up to `finish`, stopping wherever something is to happen, in at most a number of
moves. -/
def advanceIn (finish : Nat) : Nat → World → World
  | 0, w => w
  | moves + 1, w =>
    match w.nextTime? with
    | some time =>
      if time ≤ finish then advanceIn finish moves { w with now := max w.now time }.settle
      else { w with now := finish }
    | none => { w with now := finish }

/-- Moves the time on, stopping wherever something is to happen. -/
def advance (ms : Nat) (w : World) : World := advanceIn (w.now + ms) (ms + 1) w.settle

/-- Moves the time on at once, so that what was to happen meanwhile happens late. -/
def jump (ms : Nat) (w : World) : World := { w with now := w.now + ms }.settle

/-! ## Acting from outside -/

/-- Starts the watchdog with a new source of signals: whether it was started now. -/
def start (w : World) : Bool × World :=
  let (started, watchdog) := w.watchdog.start
  if started then
    let (id, b) := w.inbound.subscribe
    let w := { w with
      watchdog
      subscription? := some id
      signals? := some {} }.setInbound b
    let line := .started watchdog.core.status.intervalMs watchdog.core.workerHeld
    (true, (w.observe (.log line)).settle)
  else (false, (w.observe (.log .alreadyStarted)).settle)

/-- What became of signals that were to be sent. -/
inductive SignalResult where
  | sent
  /-- Nobody listens any more. -/
  | closed
  /-- There is no source of signals. -/
  | noSource

/-- Sends signals about the network. -/
def sendSignals (values : List Bool) (w : World) : SignalResult × World :=
  match w.signals? with
  | none => (.noSource, w)
  | some s =>
    if ¬s.sending then (.noSource, w)
    else if ¬s.heard then (.closed, w)
    else (.sent, { w with signals? := some { s with waiting := s.waiting ++ values } }.settle)

/-- Says that there will be no more signals. -/
def closeSignals (w : World) : World :=
  { w with signals? := w.signals?.map Signals.close }.settle

/-- Puts in events of the server: how many receive the last one. -/
def inject (events : List Event) (w : World) : Nat × World :=
  if w.inbound.closed ∨ events = [] then (0, w)
  else
    (w.inbound.subscribers.length,
      (w.setInbound (w.inbound.sendAll events)).settle)

/-- Says that there will be no more events of the server. Only a source of its own can be closed,
and only while the event loop reads it. -/
def closeInbound (w : World) : World :=
  match w.ownInbound?, w.subscription? with
  | some b, some _ => { w with ownInbound? := some b.close }.settle
  | _, _ => w

/-- Asks for an interval, given in nanoseconds. -/
def requestInterval (nanos : Nat) (w : World) : Except Fault Unit × World :=
  match w.watchdog.setInterval nanos with
  | .ok watchdog => (.ok (), { w with watchdog }.settle)
  | .error fault => (.error fault, w)

/-- Binds an indicator. -/
def bind (i : Indicator) (w : World) : World :=
  let (notice, watchdog) := w.watchdog.bindIndicator i
  { w with watchdog }.tell notice

/-- Connects or disconnects the channel. -/
def setConnected (connected : Bool) (w : World) : World :=
  { w with channel.connected := connected }

/-- Says how heartbeats are sent from now on. -/
def setSending (delay : Nat) (failure? : Option String) (w : World) : World :=
  { w with delay, failure? }

/-- Shuts the watchdog down and waits for its end. A heartbeat that is being sent is waited
for. -/
def shutdown (w : World) : World :=
  let ready := w.watchdog.phase = .ready
  let w := { w with watchdog := w.watchdog.shutdown }
  let w := (if ready then { w with clock.link := w.clock.link.drop } else w).settle
  match w.watchdog.phase, w.sending? with
  | .running, some s => w.advance (s.due - w.now)
  | _, _ => w

/-! ## Playing the background clock -/

/-- Takes the commands that nobody carried out. -/
def takeCommands (w : World) : List ClockCommand × World :=
  (w.clock.link.commands, { w with clock.link.commands := [] })

/-- Ticks a number of times: whether somebody still held the link. -/
def tick (count : Nat) (w : World) : Bool × World :=
  (w.clock.link.held, { w with clock.link := Nat.repeat Link.tick count w.clock.link }.settle)

/-- Stops taking commands. -/
def dropCommands (w : World) : World := { w with clock.link := w.clock.link.dropCommands }.settle

/-- Stops ticking. -/
def dropTicks (w : World) : World := { w with clock.link := w.clock.link.dropTicks }.settle

/-! ## Worlds -/

/-- A world with a given background clock, or with none. -/
def new (config : HeartbeatConfig) (clock? : Option WiredClock) : Except Fault World :=
  (Watchdog.new config clock?.isSome).map fun watchdog =>
    { watchdog, clock := clock?.getD .absent }

/-- A world with the background clock that the configuration asks for. Without a runtime, or when
the configuration asks for no clock, there is only the foreground timer. -/
def ofConfig (config : HeartbeatConfig) (runtime : Bool) : Except Fault World :=
  match config.validate, spawnClock config.clock runtime with
  | .error fault, _ => .error (.config fault)
  | .ok (), .ok (some clock) =>
    (new config (some clock)).map fun w =>
      if clock.clock?.isSome then w.observe (.log .clockReady) else w
  | .ok (), .ok none => (new config none).map fun w => w.observe (.log .clockDisabled)
  | .ok (), .error fault =>
    (new config none).map fun w => w.observe (.log (.clockUnavailable fault))

end World

end LinkWatch.Simulation
