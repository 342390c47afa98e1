/-
# Periodic timers

A timer that can be stopped, restarted and re-timed.  Its first tick comes one full period after
it was started.  A tick may be taken late: up to a tolerance the schedule is kept, and beyond it
the next tick comes one full period after the late one, so that missed ticks are not made up.

Instants and periods are numbers of nanoseconds.
-/
import LinkWatch.Time.Duration

namespace LinkWatch

/-- A timer, with the instant of its next tick while it runs. -/
structure Timer where
  period : Nat
  deadline? : Option Nat
  /-- A period is at least one millisecond. -/
  one_milli_le : nanosPerMilli ≤ period

namespace Timer

/-- How late a tick may be taken without moving the ones after it. -/
def tolerance : Nat := millis 5

/-- A stopped timer; a shorter period than one millisecond is raised to it. -/
def new (period : Nat) : Timer :=
  ⟨max period nanosPerMilli, none, Nat.le_max_right _ _⟩

def isRunning (t : Timer) : Bool := t.deadline?.isSome

/-- Schedules the next tick one period from now. -/
def restart (now : Nat) (t : Timer) : Timer := { t with deadline? := some (now + t.period) }

/-- Starts a timer that does not run. -/
def start (now : Nat) (t : Timer) : Timer := if t.isRunning then t else t.restart now

def stop (t : Timer) : Timer := { t with deadline? := none }

/-- Changes the period. The next tick of a running timer comes one new period from now. -/
def setPeriod (now period : Nat) (t : Timer) : Timer :=
  if t.isRunning then (new period).restart now else new period

/-- The deadline after a tick that was due at `deadline` and is taken now. -/
def nextDeadline (now deadline period : Nat) : Nat :=
  if now ≤ deadline + tolerance then deadline + period else now + period

/-- Takes the tick that is due, if there is one: the instant for which it was scheduled, and the
timer afterwards. -/
def tick? (now : Nat) (t : Timer) : Option (Nat × Timer) :=
  match t.deadline? with
  | some deadline =>
    if deadline ≤ now then
      some (deadline, { t with deadline? := some (nextDeadline now deadline t.period) })
    else none
  | none => none

/-! ## What each operation does to the deadline and the period -/

@[simp] theorem isRunning_new (period : Nat) : (new period).isRunning = false := rfl

@[simp] theorem isRunning_restart (now : Nat) (t : Timer) : (t.restart now).isRunning = true :=
  rfl

@[simp] theorem isRunning_stop (t : Timer) : t.stop.isRunning = false := rfl

@[simp] theorem isRunning_start (now : Nat) (t : Timer) : (t.start now).isRunning = true := by
  unfold start
  split
  · assumption
  · rfl

@[simp] theorem isRunning_setPeriod (now period : Nat) (t : Timer) :
    (t.setPeriod now period).isRunning = t.isRunning := by
  unfold setPeriod
  split <;> simp_all

/-- A tick that is taken leaves the timer running. -/
theorem isRunning_of_tick? {now : Nat} {t u : Timer} {d : Nat} (h : t.tick? now = some (d, u)) :
    t.isRunning = true ∧ u.isRunning = true := by
  unfold tick? at h
  split at h
  · next deadline hd =>
    split at h
    · obtain ⟨-, rfl⟩ := Prod.mk.injEq .. ▸ Option.some.injEq .. ▸ h
      simp [isRunning, hd]
    · cases h
  · cases h

/-- The next deadline is later than the one before by at least a period. -/
theorem deadline_add_period_le (now deadline period : Nat) :
    deadline + period ≤ nextDeadline now deadline period := by
  unfold nextDeadline
  split <;> omega

/-! ## Serving a timer -/

/-- The first instant of a whole millisecond at which a deadline has passed. -/
def wakeUp (deadline : Nat) : Nat :=
  (deadline + nanosPerMilli - 1) / nanosPerMilli * nanosPerMilli

/-- Takes ticks as soon as they are due, from `now` up to the instant `finish`: for each the
instant it was scheduled for and the instant at which it was taken. -/
def serve (finish : Nat) : Nat → Nat → Timer → List (Nat × Nat) × Timer
  | 0, _, t => ([], t)
  | fuel + 1, now, t =>
    match t.tick? now with
    | some (scheduled, next) =>
      let (later, last) := serve finish fuel now next
      ((scheduled, now) :: later, last)
    | none =>
      match t.deadline? with
      | some deadline =>
        if wakeUp deadline ≤ finish then serve finish fuel (wakeUp deadline) t else ([], t)
      | none => ([], t)

/-- Takes all ticks that are due between two instants, as soon as they are due. Deadlines lie at
least a millisecond apart, which bounds their number. -/
def serveUntil (now finish : Nat) (t : Timer) : List (Nat × Nat) × Timer :=
  serve finish (2 * (finish / nanosPerMilli) + 2) now t

end Timer

end LinkWatch
