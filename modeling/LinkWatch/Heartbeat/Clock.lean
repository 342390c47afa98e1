/-
# The background clock

A clock of its own that ticks at the heartbeat interval, and the link by which the watchdog
commands it.  The two share nothing but two queues: commands one way, ticks the other.  Either
side may go away at any time; the other notices when it uses the queue.
-/
import LinkWatch.Fault
import LinkWatch.Heartbeat.Timer

namespace LinkWatch

/-- What the background clock is told. -/
inductive ClockCommand where
  /-- Tick at an interval, the first time one interval from now. -/
  | start (intervalMs : UInt64)
  | stop
deriving DecidableEq

/-! ## The clock -/

/-- The background clock. -/
structure Clock where
  timer : Timer

namespace Clock

/-- The clock before its first command. -/
def idle : Clock := ⟨.new (millis 1)⟩

/-- Carries out a command. -/
def obey (now : Nat) (c : Clock) : ClockCommand → Clock
  | .start intervalMs => ⟨((c.timer.setPeriod now (millis intervalMs.toNat)).restart now)⟩
  | .stop => ⟨c.timer.stop⟩

/-- What can happen to the clock. -/
inductive Event where
  | command (command : ClockCommand)
  /-- There will be no more commands. -/
  | closed
  /-- A tick is due; `heard` says whether anyone receives it. -/
  | due (heard : Bool)

/-- One turn of the clock: whether it ticks, and the clock afterwards unless it ended. -/
def step (now : Nat) (c : Clock) : Event → Bool × Option Clock
  | .command command => (false, some (c.obey now command))
  | .closed => (false, none)
  | .due heard =>
    match c.timer.tick? now with
    | some (_, timer) => (heard, if heard then some ⟨timer⟩ else none)
    | none => (false, some c)

end Clock

/-! ## The link -/

/-- The two queues between watchdog and clock, and which of their ends still exist. -/
structure Link where
  /-- Commands that the clock has not taken yet. -/
  commands : List ClockCommand
  /-- The number of ticks that the watchdog has not taken yet. -/
  ticks : Nat
  /-- Whether the watchdog still holds its ends. -/
  held : Bool
  /-- Whether the clock still takes commands. -/
  listening : Bool
  /-- Whether the clock can still tick. -/
  ticking : Bool

namespace Link

/-- A link with both sides in place. -/
def new : Link := ⟨[], 0, true, true, true⟩

/-- Sends a command; this fails once the clock takes none any more. -/
def send (command : ClockCommand) (l : Link) : Except WorkerFault Link :=
  if l.listening then .ok { l with commands := l.commands ++ [command] } else .error .exited

/-- Sends a tick, which is lost when nobody holds the link. -/
def tick (l : Link) : Link := if l.held then { l with ticks := l.ticks + 1 } else l

/-- What the watchdog finds when it looks for a tick. -/
inductive Received where
  | tick (rest : Link)
  | gone
  | nothing

/-- Looks for a tick. The ticks that were sent before the clock went away are still there. -/
def receive (l : Link) : Received :=
  match l.ticks with
  | n + 1 => .tick { l with ticks := n }
  | 0 => if l.ticking then .nothing else .gone

/-- What the clock finds when it looks for a command. -/
inductive Taken where
  | command (command : ClockCommand) (rest : Link)
  | closed
  | nothing

/-- Looks for a command. The commands that were sent before the link was dropped are still
there. -/
def take (l : Link) : Taken :=
  match l.commands with
  | c :: rest => .command c { l with commands := rest }
  | [] => if l.held then .nothing else .closed

/-- The watchdog lets go of the link. -/
def drop (l : Link) : Link := { l with held := false, ticks := 0 }

/-- The clock stops taking commands. -/
def dropCommands (l : Link) : Link := { l with listening := false, commands := [] }

/-- The clock stops ticking. -/
def dropTicks (l : Link) : Link := { l with ticking := false }

/-- The clock goes away. -/
def dropEndpoint (l : Link) : Link := l.dropCommands.dropTicks

end Link

/-! ## The clock at its end of the link -/

/-- A clock together with its link; there is no clock before it runs and after it has ended. -/
structure WiredClock where
  link : Link
  clock? : Option Clock

namespace WiredClock

/-- A clock that has not been told anything yet. -/
def new : WiredClock := ⟨.new, some .idle⟩

/-- A link at whose end no clock of ours runs: whoever holds that end plays the clock. -/
def remote : WiredClock := ⟨.new, none⟩

/-- No clock at all. -/
def absent : WiredClock := ⟨Link.new.drop, none⟩

/-- What a turn of the clock was. -/
inductive Turn where
  | obeyed (command : ClockCommand)
  | ticked
  | ended

/-- One turn of the clock, if there is anything to do for it: a command, the end of the commands,
or a tick that is due. -/
def turn? (now : Nat) (w : WiredClock) : Option (Turn × WiredClock) :=
  w.clock?.bind fun clock =>
    match w.link.take with
    | .command command rest => some (.obeyed command, ⟨rest, (clock.step now (.command command)).2⟩)
    | .closed => some (.ended, ⟨w.link.dropEndpoint, none⟩)
    | .nothing =>
      if (clock.timer.tick? now).isNone then none
      else match clock.step now (.due w.link.held) with
        | (_, some clock) => some (.ticked, ⟨w.link.tick, some clock⟩)
        | (_, none) => some (.ended, ⟨w.link.dropEndpoint, none⟩)

/-- Stops the clock from outside, with its end of the link. -/
def abort (w : WiredClock) : WiredClock := ⟨w.link.dropEndpoint, none⟩

/-- The instant of its next tick. -/
def deadline? (w : WiredClock) : Option Nat := w.clock?.bind fun clock => clock.timer.deadline?

end WiredClock

end LinkWatch
