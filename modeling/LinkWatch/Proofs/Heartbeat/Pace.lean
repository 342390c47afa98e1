/-
# What commands make of the background clock

Commands and ticks change two things of the clock: its pace, which is whether it runs and at which
period, and the instant of its next tick.  The pace after a command depends on nothing but the pace
before, so that the pace after all commands that still wait can be told in advance, whatever the
instants at which they are carried out (`Clock.pace_obeyAll`).
-/
import LinkWatch.Heartbeat.Clock
import LinkWatch.Proofs.Heartbeat.Deadline

namespace LinkWatch

/-- Whether a timer runs, and at which period. -/
structure Pace where
  running : Bool
  period : ℕ

/-- The pace after a command. -/
def Pace.obey (p : Pace) : ClockCommand → Pace
  | .start intervalMs => ⟨true, max (millis intervalMs.toNat) nanosPerMilli⟩
  | .stop => { p with running := false }

namespace Clock

variable {c c' : Clock} {now : ℕ} {heard told : Bool}

/-- The pace of the clock. -/
def pace (c : Clock) : Pace := ⟨c.timer.isRunning, c.timer.period⟩

@[simp] lemma pace_obey (now : ℕ) (c : Clock) (k : ClockCommand) :
    (c.obey now k).pace = c.pace.obey k := by
  cases k with
  | start n =>
    show (⟨true, (c.timer.setPeriod now (millis n.toNat)).period⟩ : Pace) = _
    rw [Timer.period_setPeriod_eq]
    rfl
  | stop => rfl

/-- A tick leaves the pace as it was. -/
lemma pace_of_step_due (h : c.step now (.due heard) = (told, some c')) : c'.pace = c.pace := by
  simp only [step] at h
  split at h
  next d t ht =>
    obtain ⟨hd, -, rfl⟩ := Timer.tick?_eq_some_iff.mp ht
    cases heard with
    | true =>
      cases h
      simp [pace, Timer.isRunning, hd]
    | false => cases h
  next =>
    cases h
    rfl

/-- A clock ends at a tick only when nobody hears it. -/
lemma heard_eq_false_of_step_due (h : c.step now (.due heard) = (told, none)) :
    heard = false := by
  simp only [step] at h
  split at h
  · cases heard with
    | true => cases h
    | false => rfl
  · cases h

/-- The clock after commands, each with the instant at which it is carried out. -/
def obeyAll (c : Clock) (orders : List (ℕ × ClockCommand)) : Clock :=
  orders.foldl (fun c o => c.obey o.1 o.2) c

/-- The instants at which commands are carried out make no difference to the pace. -/
lemma pace_obeyAll (c : Clock) (orders : List (ℕ × ClockCommand)) :
    (c.obeyAll orders).pace = (orders.map Prod.snd).foldl Pace.obey c.pace := by
  induction orders generalizing c with
  | nil => rfl
  | cons o orders ih =>
    rw [List.map_cons, List.foldl_cons, ← pace_obey o.1]
    exact ih _

end Clock

/-! ## The ends of the link -/

namespace Link

variable {l l' : Link} {k : ClockCommand}

lemma take_eq_command_iff :
    l.take = .command k l' ↔ ∃ ks, l.commands = k :: ks ∧ l' = { l with commands := ks } := by
  rw [take]
  split
  next k' ks h =>
    simp only [Taken.command.injEq, h, List.cons.injEq]
    constructor
    · rintro ⟨rfl, rfl⟩
      exact ⟨ks, ⟨rfl, rfl⟩, rfl⟩
    · rintro ⟨ks', ⟨rfl, rfl⟩, rfl⟩
      exact ⟨rfl, rfl⟩
  next h => split <;> simp [h]

/-- There will be no more commands only when nobody holds the link. -/
lemma held_eq_false_of_take (h : l.take = .closed) : l.held = false := by
  rw [take] at h
  split at h
  · cases h
  · split at h
    · cases h
    next hh => simpa using hh

lemma receive_eq_tick (h : l.receive = .tick l') :
    ∃ n, l.ticks = n + 1 ∧ l' = { l with ticks := n } := by
  rw [receive] at h
  split at h
  next n hn =>
    cases h
    exact ⟨n, hn, rfl⟩
  next => split at h <;> cases h

/-- The clock is gone only when it can tick no more. -/
lemma ticking_eq_false_of_receive (h : l.receive = .gone) : l.ticking = false := by
  rw [receive] at h
  split at h
  · cases h
  · split at h
    · cases h
    next ht => simpa using ht

end Link

end LinkWatch
