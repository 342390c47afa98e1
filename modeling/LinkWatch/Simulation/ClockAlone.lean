/-
# A background clock on its own, in virtual time

A link in the hands of somebody who sends commands and takes every tick at once, and at its other
end a clock, or nobody.
-/
import LinkWatch.Heartbeat.Clock

namespace LinkWatch.Simulation

/-- A clock and its link. Times are in milliseconds. -/
structure ClockAlone where
  now : Nat := 0
  wired : WiredClock
  /-- When ticks were received, latest first. -/
  ticks : List Nat := []

namespace ClockAlone

/-- Receives the ticks that wait. -/
def receive (a : ClockAlone) : ClockAlone :=
  { a with
    ticks := List.replicate a.wired.link.ticks a.now ++ a.ticks
    wired.link.ticks := 0 }

/-- Lets the clock do what it can do now, in at most a number of turns. -/
def settleIn : Nat → ClockAlone → ClockAlone
  | 0, a => a
  | turns + 1, a =>
    match a.wired.turn? (millis a.now) with
    | some (_, wired) => settleIn turns { a with wired }.receive
    | none => a

/-- Lets the clock do what it can do now: a turn for each command, and the ticks that are late by
less than the tolerance. -/
def settle (a : ClockAlone) : ClockAlone := settleIn (a.wired.link.commands.length + 16) a

/-- Sends a command, as long as the link is held. -/
def send (command : ClockCommand) (a : ClockAlone) : Except Fault ClockAlone :=
  match a.wired.link.send command with
  | .ok link => .ok { a with wired.link := link }.settle
  | .error fault => .error (.worker fault)

/-- Moves the time up to `finish`, stopping at every tick, in at most a number of moves. -/
def advanceIn (finish : Nat) : Nat → ClockAlone → ClockAlone
  | 0, a => a
  | moves + 1, a =>
    match a.wired.deadline?.map fun d => Timer.wakeUp d / nanosPerMilli with
    | some time =>
      if time ≤ finish then advanceIn finish moves { a with now := max a.now time }.settle
      else { a with now := finish }
    | none => { a with now := finish }

/-- Moves the time on, stopping at every tick. -/
def advance (ms : Nat) (a : ClockAlone) : ClockAlone := advanceIn (a.now + ms) (ms + 1) a

/-- Moves the time on at once. -/
def jump (ms : Nat) (a : ClockAlone) : ClockAlone := { a with now := a.now + ms }.settle

/-- Lets go of the link. -/
def dropLink (a : ClockAlone) : ClockAlone := { a with wired.link := a.wired.link.drop }.settle

/-- Takes the clock away, with its end of the link. -/
def dropEndpoint (a : ClockAlone) : ClockAlone := { a with wired := a.wired.abort }

/-- The times at which ticks were received since they were last taken. -/
def takeTicks (a : ClockAlone) : List Nat × ClockAlone := (a.ticks.reverse, { a with ticks := [] })

/-- Whether the link says that there will be no more ticks. -/
def ended (a : ClockAlone) : Bool := a.wired.link.held && !a.wired.link.ticking

end ClockAlone

end LinkWatch.Simulation
