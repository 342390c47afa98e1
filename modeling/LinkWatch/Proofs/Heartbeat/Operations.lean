/-
# A timer under any operations

A timer may be started, restarted, stopped, re-timed and asked for its next tick in any order, at
any instants.  Its period and whether it runs can be told from the operations alone: what counts is
the last period that was given, and the last order to run or to stop (`Timer.period_after`,
`Timer.isRunning_after`).

The ticks are known from one operation that schedules the next tick to another one.  Between the
two (`Timer.Undisturbed`), the deadline of each tick follows from the tick before it: a period after
its deadline, or a period after the instant at which it was taken, if that was late
(`Timer.OnSchedule`).  This is all that the bounds of `Timer.laws_of_operations` need.
-/
import LinkWatch.Proofs.Heartbeat.Deadline
import Mathlib.Data.List.Induction

namespace LinkWatch.Timer

/-! ## Operations -/

/-- What may be done with a timer. -/
inductive Operation where
  | start
  | restart
  | stop
  | setPeriod (period : ℕ)
  /-- The next tick is asked for, and taken if it is due. -/
  | tick

namespace Operation

/-- The period that is given. -/
def period? : Operation → Option ℕ
  | setPeriod period => some period
  | _ => none

/-- Whether the timer is to run from now on, if anything is said about it. -/
def runs? : Operation → Option Bool
  | start | restart => some true
  | stop => some false
  | setPeriod _ | tick => none

/-- Whether the next tick is put one period later, with a timer that runs or does not. -/
def schedules (running : Bool) : Operation → Bool
  | start => !running
  | restart => true
  | setPeriod _ => running
  | stop | tick => false

end Operation

/-- The timer after an operation. A tick that is not due leaves it as it is. -/
def operate (now : ℕ) (t : Timer) : Operation → Timer
  | .start => t.start now
  | .restart => t.restart now
  | .stop => t.stop
  | .setPeriod period => t.setPeriod now period
  | .tick => ((t.tick? now).map Prod.snd).getD t

/-- The tick that is taken in an operation, if any: its deadline, and the instant. -/
def taken? (now : ℕ) (t : Timer) : Operation → Option (ℕ × ℕ)
  | .tick => (t.tick? now).map fun (deadline, _) => (deadline, now)
  | _ => none

/-- The timer after operations, each with its instant. -/
def after (t : Timer) (os : List (ℕ × Operation)) : Timer :=
  os.foldl (fun t o => t.operate o.1 o.2) t

/-- The ticks that are taken in operations, each with its deadline and the instant at which it is
taken. -/
def ticks : Timer → List (ℕ × Operation) → List (ℕ × ℕ)
  | _, [] => []
  | t, (now, o) :: os => (t.taken? now o).toList ++ ticks (t.operate now o) os

/-- None of the operations schedules the next tick. -/
def Undisturbed : Timer → List (ℕ × Operation) → Prop
  | _, [] => True
  | t, (now, o) :: os => o.schedules t.isRunning = false ∧ Undisturbed (t.operate now o) os

/-- What the last operation says that says anything. -/
def last? {α : Type} (says? : Operation → Option α) (os : List (ℕ × Operation)) : Option α :=
  os.reverse.findSome? fun o => says? o.2

variable {t u : Timer} {now d s k j period due first : ℕ} {o : Operation}
  {os : List (ℕ × Operation)} {taken : List (ℕ × ℕ)}

lemma after_concat : t.after (os ++ [(now, o)]) = (t.after os).operate now o := List.foldl_append

lemma last?_concat {α : Type} {says? : Operation → Option α} :
    last? says? (os ++ [(now, o)]) = (says? o).or (last? says? os) := by
  rw [last?, List.reverse_append, List.reverse_singleton, List.singleton_append,
    List.findSome?_cons]
  cases says? o <;> rfl

/-! ## The period, and whether the timer runs -/

lemma operate_tick_of_eq_none (h : t.tick? now = none) : t.operate now .tick = t := by
  rw [operate, h]
  rfl

lemma operate_tick_of_eq_some (h : t.tick? now = some (d, u)) : t.operate now .tick = u := by
  rw [operate, h]
  rfl

/-- Only an operation that gives a period changes it. -/
lemma period_operate (now : ℕ) (t : Timer) (o : Operation) :
    (t.operate now o).period = (o.period?.map (max · nanosPerMilli)).getD t.period := by
  cases o with
  | start => exact period_start now t
  | restart => rfl
  | stop => rfl
  | setPeriod period => exact period_setPeriod_eq now period t
  | tick =>
    cases h : t.tick? now with
    | none => rw [operate_tick_of_eq_none h]; rfl
    | some p =>
      obtain ⟨-, -, hu⟩ := tick?_eq_some_iff.mp h
      rw [operate_tick_of_eq_some h, hu]
      rfl

/-- A tick and a period say nothing about whether the timer runs. -/
lemma isRunning_operate (now : ℕ) (t : Timer) (o : Operation) :
    (t.operate now o).isRunning = o.runs?.getD t.isRunning := by
  cases o with
  | start => exact isRunning_start now t
  | restart => rfl
  | stop => rfl
  | setPeriod period => exact isRunning_setPeriod now period t
  | tick =>
    cases h : t.tick? now with
    | none => rw [operate_tick_of_eq_none h]; rfl
    | some p =>
      obtain ⟨hbefore, hafter⟩ := isRunning_of_tick? h
      rw [operate_tick_of_eq_some h, hafter]
      exact hbefore.symm

/-- **The period is the last one that was given**, or a millisecond, if that is more. -/
theorem period_after (first : ℕ) (os : List (ℕ × Operation)) :
    ((new first).after os).period =
      max ((last? Operation.period? os).getD first) nanosPerMilli := by
  induction os using List.reverseRecOn with
  | nil => rfl
  | append_singleton os o ih =>
    obtain ⟨now, o⟩ := o
    rw [after_concat, period_operate, last?_concat, ih]
    cases o.period? <;> rfl

/-- **The timer runs if the last order was to run.** -/
theorem isRunning_after (first : ℕ) (os : List (ℕ × Operation)) :
    ((new first).after os).isRunning = (last? Operation.runs? os).getD false := by
  induction os using List.reverseRecOn with
  | nil => rfl
  | append_singleton os o ih =>
    obtain ⟨now, o⟩ := o
    rw [after_concat, isRunning_operate, last?_concat, ih]
    cases o.runs? <;> rfl

/-! ## Ticks -/

/-- An operation that schedules the next tick puts it one period later. -/
lemma deadline?_operate (h : o.schedules t.isRunning = true) :
    (t.operate now o).deadline? = some (now + (t.operate now o).period) := by
  cases o with
  | start =>
    have hstopped : t.isRunning = false := by simpa [Operation.schedules] using h
    rw [operate, deadline?_start hstopped, period_start]
  | restart => rfl
  | setPeriod period => rw [operate, deadline?_setPeriod_eq h, period_setPeriod_eq]
  | stop | tick => cases h

lemma tick?_of_isRunning_eq_false (h : t.isRunning = false) : t.tick? now = none := by
  rw [tick?, isRunning_eq_false_iff.mp h]

/-- Ticks that are taken at their deadlines or later, the first one being due at an instant, and
each other one when the one before says so. -/
def OnSchedule (period : ℕ) : ℕ → List (ℕ × ℕ) → Prop
  | _, [] => True
  | due, (deadline, now) :: taken =>
    deadline = due ∧ deadline ≤ now ∧ OnSchedule period (nextDeadline now deadline period) taken

/-- A timer that has been stopped does not tick until it is scheduled again. -/
lemma ticks_eq_nil (h : t.isRunning = false) (hu : t.Undisturbed os) : t.ticks os = [] := by
  induction os generalizing t with
  | nil => rfl
  | cons o os ih =>
    obtain ⟨now, o⟩ := o
    obtain ⟨hkept, hu⟩ := hu
    have hstopped : (t.operate now o).isRunning = false := by
      rw [isRunning_operate, h]
      cases o with
      | start => simp [Operation.schedules, h] at hkept
      | restart => cases hkept
      | stop | setPeriod | tick => rfl
    have hnone : t.taken? now o = none := by
      cases o with
      | tick => rw [taken?, tick?_of_isRunning_eq_false h, Option.map_none]
      | _ => rfl
    rw [ticks, hnone, ih hstopped hu]
    rfl

/-- **The ticks of a timer that is left to itself are on schedule.** -/
lemma onSchedule_ticks (hd : t.deadline? = some d) (hu : t.Undisturbed os) :
    OnSchedule t.period d (t.ticks os) := by
  have hruns : t.isRunning = true := isRunning_eq_true_iff.mpr ⟨d, hd⟩
  -- induction on the operations; only a tick moves the deadline, and a stop is the end of it
  induction os generalizing t d with
  | nil => trivial
  | cons o os ih =>
    obtain ⟨now, o⟩ := o
    obtain ⟨hkept, hu⟩ := hu
    cases o with
    | start =>
      have hsame : t.operate now .start = t := if_pos hruns
      rw [hsame] at hu
      rw [ticks, hsame]
      exact ih hd hu hruns
    | restart => cases hkept
    | stop =>
      have hnone : (t.operate now .stop).ticks os = [] := ticks_eq_nil (isRunning_stop t) hu
      rw [ticks, hnone]
      trivial
    | setPeriod period => simp [Operation.schedules, hruns] at hkept
    | tick =>
      cases ht : t.tick? now with
      | none =>
        rw [operate_tick_of_eq_none ht] at hu
        rw [ticks, operate_tick_of_eq_none ht, taken?, ht]
        exact ih hd hu hruns
      | some p =>
        obtain ⟨d', u⟩ := p
        obtain ⟨hd', hle, hnext⟩ := tick?_eq_some_iff.mp ht
        obtain rfl : d' = d := Option.some.inj (hd'.symm.trans hd)
        rw [operate_tick_of_eq_some ht, hnext] at hu
        rw [ticks, operate_tick_of_eq_some ht, taken?, ht, hnext]
        exact ⟨rfl, hle, ih rfl hu rfl⟩

namespace OnSchedule

/-- Every tick takes a period at least. -/
lemma bounds (h : OnSchedule period due taken) (hk : taken[k]? = some (d, now)) :
    due + k * period ≤ d ∧ d ≤ now := by
  induction taken generalizing due k with
  | nil => cases hk
  | cons e taken ih =>
    obtain ⟨d₀, now₀⟩ := e
    obtain ⟨rfl, hle, hrest⟩ := h
    cases k with
    | zero =>
      cases hk
      exact ⟨by omega, hle⟩
    | succ k =>
      obtain ⟨hlater, hle⟩ := ih hrest hk
      have hnext := deadline_add_period_le now₀ d₀ period
      refine ⟨?_, hle⟩
      rw [Nat.succ_mul]
      omega

/-- What comes after a tick depends on nothing but this tick. -/
lemma drop (h : OnSchedule period due taken) (hk : taken[k]? = some (d, now)) :
    OnSchedule period (nextDeadline now d period) (taken.drop (k + 1)) := by
  induction taken generalizing due k with
  | nil => cases hk
  | cons e taken ih =>
    obtain ⟨d₀, now₀⟩ := e
    obtain ⟨-, -, hrest⟩ := h
    cases k with
    | zero =>
      cases hk
      exact hrest
    | succ k => exact ih hrest hk

lemma eq_due (h : OnSchedule period due taken) (h0 : taken[0]? = some (d, now)) : d = due := by
  cases taken with
  | nil => cases h0
  | cons e taken =>
    cases h0
    exact h.1

/-- The deadline of a tick, by the tick before. -/
lemma next_eq {d' now' : ℕ} (h : OnSchedule period due taken) (hk : taken[k]? = some (d, now))
    (hk' : taken[k + 1]? = some (d', now')) : d' = nextDeadline now d period :=
  (h.drop hk).eq_due (by rw [List.getElem?_drop]; exact hk')

/-- Whatever was missed, the ticks after a late one come a period later each. -/
lemma le_of_late {d' now' : ℕ} (h : OnSchedule period due taken) (hk : taken[k]? = some (d, now))
    (hlate : d + tolerance < now) (hj : taken[k + 1 + j]? = some (d', now')) :
    now + (j + 1) * period ≤ d' := by
  have hrest := h.drop hk
  rw [nextDeadline_of_lt hlate] at hrest
  obtain ⟨hle, -⟩ := hrest.bounds (by rw [List.getElem?_drop]; exact hj)
  rw [Nat.succ_mul]
  omega

end OnSchedule

/-- **The laws of timers.**  Take a timer that was made with some period and then operated in any
way, at any instants:

* its period is the last one that was given, or a millisecond if that is more;
* it runs just if it was told to start, to restart or to stop and the last of these was not to stop;
  periods and ticks make no difference to this;
* a start leaves it as it is while it runs, and puts its next tick one period later otherwise;
* a restart puts the next tick exactly one period later, and so does a new period while it runs, the
  new one being counted;
* it does not tick while it is stopped, and while it runs a tick can be taken as soon as it is due;
* a tick that is taken moves the deadline on by a period, or to a full period from now, if it was
  taken more than five milliseconds late.

Look then at any time after the next tick was scheduled at an instant `s`, and before it was
scheduled again, with the ticks that were taken by then:

* the tick number `k + 1` has a deadline of at least `k + 1` periods after `s`, and is taken no
  earlier than at its deadline;
* the deadline of every other tick follows from the tick before it, as above;
* when a tick was taken more than five milliseconds late, the tick number `j + 1` after it comes at
  least `j + 1` periods after the late one was taken, so that what was missed is not made up for.

That the instants are in order is not needed for any of this. -/
theorem laws_of_operations (reached : (new first).after os = t) :
    t.period = max ((last? Operation.period? os).getD first) (millis 1) ∧
    (t.isRunning = true ↔ last? Operation.runs? os = some true) ∧
    (t.isRunning = true → ∀ now, t.start now = t) ∧
    (t.isRunning = false → ∀ now, (t.start now).deadline? = some (now + t.period)) ∧
    (∀ now, (t.restart now).deadline? = some (now + t.period)) ∧
    (t.isRunning = true → ∀ now period,
      (t.setPeriod now period).deadline? = some (now + max period (millis 1))) ∧
    (t.isRunning = false → ∀ now, t.tick? now = none) ∧
    (∀ now d, t.deadline? = some d → (d ≤ now ↔ (t.tick? now).isSome)) ∧
    (∀ now d u, t.tick? now = some (d, u) → t.deadline? = some d ∧ u.period = t.period ∧
      u.deadline? = some (if now ≤ d + millis 5 then d + t.period else now + t.period)) ∧
    (∀ before s o later rest u, os = before ++ (s, o) :: (later ++ rest) →
      o.schedules ((new first).after before).isRunning = true →
      (new first).after (before ++ [(s, o)]) = u → u.Undisturbed later →
      (∀ k d now, (u.ticks later)[k]? = some (d, now) → s + (k + 1) * u.period ≤ d ∧ d ≤ now) ∧
      (∀ k d now d' now', (u.ticks later)[k]? = some (d, now) →
        (u.ticks later)[k + 1]? = some (d', now') →
        d' = if now ≤ d + millis 5 then d + u.period else now + u.period) ∧
      (∀ k j d now d' now', (u.ticks later)[k]? = some (d, now) → d + millis 5 < now →
        (u.ticks later)[k + 1 + j]? = some (d', now') → now + (j + 1) * u.period ≤ d')) := by
  refine ⟨?_, ?_, fun hruns now => if_pos hruns, fun hstopped now => deadline?_start hstopped,
    fun now => rfl, fun hruns now period => deadline?_setPeriod_eq hruns,
    fun hstopped now => tick?_of_isRunning_eq_false hstopped, ?_, ?_, ?_⟩
  · rw [← reached]
    exact period_after first os
  · rw [← reached, isRunning_after]
    cases last? Operation.runs? os <;> simp
  · intro now d hd
    constructor
    · intro hle
      rw [tick?_eq_some_iff.mpr ⟨hd, hle, rfl⟩]
      rfl
    · intro hsome
      obtain ⟨⟨d', u⟩, ht⟩ := Option.isSome_iff_exists.mp hsome
      obtain ⟨hd', hle, -⟩ := tick?_eq_some_iff.mp ht
      rwa [Option.some.inj (hd.symm.trans hd')]
  · intro now d u ht
    obtain ⟨hd, -, rfl⟩ := tick?_eq_some_iff.mp ht
    exact ⟨hd, rfl, rfl⟩
  · rintro before s o later rest u - hschedules rfl hu
    rw [after_concat] at hu ⊢
    have hticks := onSchedule_ticks (deadline?_operate hschedules) hu
    refine ⟨fun k d now hk => ?_, fun k d now d' now' hk hk' => hticks.next_eq hk hk',
      fun k j d now d' now' hk hlate hj => hticks.le_of_late hk hlate hj⟩
    obtain ⟨hle, htaken⟩ := hticks.bounds hk
    rw [Nat.succ_mul]
    exact ⟨by omega, htaken⟩

/-- A running timer is started once more. The second of its ticks is taken seven milliseconds
late. -/
def handledLate : List (ℕ × Operation) :=
  [(millis 40, .start), (millis 100, .tick), (millis 207, .tick), (millis 300, .tick),
    (millis 307, .tick)]

/-- The timer is given no time at all between its ticks. It is stopped, and given another period. -/
def handledLast : List (ℕ × Operation) :=
  [(millis 310, .setPeriod 0), (millis 311, .tick), (millis 312, .stop), (millis 320, .tick),
    (millis 320, .setPeriod (millis 50))]

/-- What was done with a timer from its start on. -/
def handled : List (ℕ × Operation) := (0, .start) :: (handledLate ++ handledLast)

theorem laws_of_operations_handled :
    ∃ t u, (new (millis 100)).after handled = t ∧ (new (millis 100)).after [(0, .start)] = u ∧
      t.period = millis 50 ∧ t.isRunning = false ∧ (∀ now, t.tick? now = none) ∧
      (new (millis 100)).ticks handled = [(millis 100, millis 100), (millis 200, millis 207),
        (millis 307, millis 307), (millis 311, millis 311)] ∧
      0 + (2 + 1) * u.period ≤ millis 307 ∧ millis 307 = millis 207 + u.period := by
  obtain ⟨t, reached⟩ : ∃ t, (new (millis 100)).after handled = t := ⟨_, rfl⟩
  obtain ⟨hperiod, hruns, -, -, -, -, hstopped, -, -, hstretch⟩ := laws_of_operations reached
  have hlast : last? Operation.runs? handled = some false := rfl
  have hstill : t.isRunning = false := by simpa [hlast] using hruns
  have hticks : (new (millis 100)).ticks handled = [(millis 100, millis 100),
      (millis 200, millis 207), (millis 307, millis 307), (millis 311, millis 311)] := by
    decide +kernel
  have hlate : ((new (millis 100)).after [(0, .start)]).ticks handledLate =
      [(millis 100, millis 100), (millis 200, millis 207), (millis 307, millis 307)] := by
    decide +kernel
  obtain ⟨hbounds, hnext, -⟩ := hstretch [] 0 .start handledLate handledLast _
    rfl rfl rfl ⟨rfl, rfl, rfl, rfl, rfl, trivial⟩
  rw [List.nil_append, hlate] at hbounds hnext
  exact ⟨t, _, reached, rfl, hperiod, hstill, hstopped hstill, hticks, (hbounds 2 _ _ rfl).1,
    hnext 1 _ _ _ _ rfl rfl⟩

end LinkWatch.Timer
