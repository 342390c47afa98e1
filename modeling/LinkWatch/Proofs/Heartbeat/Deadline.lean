/-
# When a timer ticks next

What each operation on a timer does to its period and to the instant of its next tick.  A timer
that is started, restarted or re-timed ticks one full period later; a tick that is taken moves
the next one by a full period, counted from the instant for which the tick was scheduled or, when
it was taken late, from the instant at which it was taken.
-/
import LinkWatch.Heartbeat.Timer
import Mathlib.Tactic.Common

namespace LinkWatch

lemma nanosPerMilli_le_millis {n : ℕ} (h : 1 ≤ n) : nanosPerMilli ≤ millis n :=
  Nat.le_mul_of_pos_left _ h

namespace Timer

variable {now period d : ℕ} {t u : Timer}

/-! ## Periods -/

@[simp] lemma period_start (now : ℕ) (t : Timer) : (t.start now).period = t.period := by
  rw [start]
  split <;> rfl

/-- A period is taken as it is, or raised to one millisecond. -/
lemma period_setPeriod_eq (now period : ℕ) (t : Timer) :
    (t.setPeriod now period).period = max period nanosPerMilli := by
  rw [setPeriod]
  split <;> rfl

/-- A period of at least one millisecond is taken as it is. -/
lemma period_setPeriod (h : nanosPerMilli ≤ period) : (t.setPeriod now period).period = period := by
  rw [period_setPeriod_eq, Nat.max_eq_left h]

/-! ## Deadlines -/

lemma isRunning_eq_false_iff : t.isRunning = false ↔ t.deadline? = none :=
  Option.isSome_eq_false_iff.trans Option.isNone_iff_eq_none

lemma isRunning_eq_true_iff : t.isRunning = true ↔ ∃ d, t.deadline? = some d :=
  Option.isSome_iff_exists

@[simp] lemma deadline?_restart (now : ℕ) (t : Timer) :
    (t.restart now).deadline? = some (now + t.period) := rfl

/-- A timer that does not run is started one period before its first tick. -/
lemma deadline?_start (h : t.isRunning = false) :
    (t.start now).deadline? = some (now + t.period) := by
  simp [start, h]

/-- A running timer that is re-timed ticks one new period later. -/
lemma deadline?_setPeriod_eq (h : t.isRunning = true) :
    (t.setPeriod now period).deadline? = some (now + max period nanosPerMilli) := by
  rw [setPeriod, if_pos h]
  rfl

lemma deadline?_setPeriod (hp : nanosPerMilli ≤ period) (h : t.isRunning = true) :
    (t.setPeriod now period).deadline? = some (now + period) := by
  rw [deadline?_setPeriod_eq h, Nat.max_eq_left hp]

/-! ## Ticks -/

/-- A tick is taken exactly when its deadline has passed, and then only the deadline moves. -/
lemma tick?_eq_some_iff :
    t.tick? now = some (d, u) ↔
      t.deadline? = some d ∧ d ≤ now ∧
        u = { t with deadline? := some (nextDeadline now d t.period) } := by
  rw [tick?]
  split
  next e he =>
    split
    next hle =>
      rw [Option.some.injEq, Prod.mk.injEq, he, Option.some.injEq]
      constructor
      · rintro ⟨rfl, rfl⟩
        exact ⟨rfl, hle, rfl⟩
      · rintro ⟨rfl, -, rfl⟩
        exact ⟨rfl, rfl⟩
    next hlt =>
      constructor
      · intro h; cases h
      · rintro ⟨h, hle, -⟩
        rw [he, Option.some.injEq] at h
        omega
  next he => simp [he]

/-- A tick that is taken in time keeps the schedule. -/
lemma nextDeadline_of_le (h : now ≤ d + tolerance) : nextDeadline now d period = d + period :=
  if_pos h

/-- A tick that is taken late starts a new schedule. -/
lemma nextDeadline_of_lt (h : d + tolerance < now) : nextDeadline now d period = now + period :=
  if_neg (by omega)

end Timer

end LinkWatch
