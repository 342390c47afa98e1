/-
# The life of a watchdog

A watchdog lives from the start of its event loop on.  The loop takes turns, each dealing with one
incident at some moment; others may bind indicators at any time; and at last the loop ends.  A
life is a list of such happenings, in any order that the loop allows: while a heartbeat is under
way the loop waits for nothing but the answer, it takes a tick only when one is due, and it hears
of the background clock only while it holds the link.  Beyond that nothing is assumed about the
happenings, nor about their moments.

Statements about every life are proved by `Watchdog.after_induction`: what holds at the start and
is kept by every happening holds ever after.
-/
import LinkWatch.Proofs.Watchdog.Turn
import LinkWatch.Watchdog.Handle

namespace LinkWatch

/-- Something that happens to a watchdog whose event loop was started. -/
inductive Happening where
  /-- The event loop deals with an incident. -/
  | turn (m : Moment) (i : Incident)
  /-- Somebody binds an indicator. -/
  | bind (i : Indicator)
  /-- The event loop ends. -/
  | finish (m : Moment)

namespace Happening

/-- The instant at which the event loop acts. -/
def instant? : Happening → Option ℕ
  | .turn m _ => some m.now
  | .bind _ => none
  | .finish m => some m.now

/-- The instants at which the event loop acts, one after the other. -/
def instants (hs : List Happening) : List ℕ := hs.filterMap instant?

/-- The incident that the event loop deals with. -/
def incident? : Happening → Option Incident
  | .turn _ i => some i
  | _ => none

lemma instants_append (xs ys : List Happening) :
    instants (xs ++ ys) = instants xs ++ instants ys :=
  List.filterMap_append

lemma mem_instants_cons {h : Happening} {hs : List Happening} {t : ℕ} (ht : h.instant? = some t) :
    t ∈ instants (h :: hs) :=
  List.mem_filterMap.mpr ⟨h, List.mem_cons_self, ht⟩

lemma instants_subset_cons (h : Happening) (hs : List Happening) :
    instants hs ⊆ instants (h :: hs) :=
  List.filterMap_subset _ (List.subset_cons_self h hs)

/-- When instants do not run backwards, what happens later happens at later instants. -/
lemma le_of_mem_instants {xs ys : List Happening} {h : Happening} {t u : ℕ}
    (hord : (instants (xs ++ h :: ys)).Pairwise (· ≤ ·)) (ht : h.instant? = some t)
    (hu : u ∈ instants ys) : t ≤ u := by
  rw [instants_append] at hord
  have hcons : instants (h :: ys) = t :: instants ys := List.filterMap_cons_some ht
  rw [hcons] at hord
  exact (List.pairwise_cons.mp (List.pairwise_append.mp hord).2.1).1 u hu

/-- Whether the event loop takes a tick of the foreground timer. -/
def isTick : Happening → Bool
  | .turn _ .due => true
  | _ => false

lemma isTick_turn {m : Moment} {i : Incident} (hi : i ≠ .due) : (turn m i).isTick = false := by
  cases i <;> first | rfl | exact absurd rfl hi

lemma isTick_iff {h : Happening} : h.isTick ↔ ∃ m, h = .turn m .due := by
  constructor
  · intro ht
    cases h with
    | turn m i =>
      by_cases hi : i = .due
      · exact ⟨m, congrArg _ hi⟩
      · rw [isTick_turn hi] at ht
        cases ht
    | _ => cases ht
  · rintro ⟨m, rfl⟩
    rfl

/-- Whether the event loop counts a tick of the background clock. -/
def isBackgroundTick : Happening → Bool
  | .turn _ .workerTick => true
  | _ => false

lemma isBackgroundTick_iff {h : Happening} : h.isBackgroundTick ↔ ∃ m, h = .turn m .workerTick := by
  constructor
  · intro hb
    unfold isBackgroundTick at hb
    split at hb
    next m => exact ⟨m, rfl⟩
    next => cases hb
  · rintro ⟨m, rfl⟩
    rfl

end Happening

/-- The regime after something happened. -/
def Regime.next (config : HeartbeatConfig) (r : Regime) (h : Happening) : Regime :=
  (h.incident?.map (r.after config)).getD r

/-- Whether the event loop can deal with an incident in a state. -/
def Core.awaits (m : Moment) (c : Core) : Incident → Bool
  | .emitted _ => c.emitting
  | .due => !c.emitting && (c.timer.tick? m.now).isSome
  | .workerTick | .workerGone => !c.emitting && c.workerHeld
  | _ => !c.emitting

namespace Watchdog

/-- A watchdog whose event loop was just started, with a background clock or without one. -/
def launch (config : HeartbeatConfig) (workerHeld : Bool) : Watchdog :=
  { core := .new config workerHeld, phase := .running }

/-- The watchdog after something happened, and what was done about it. -/
def happen (w : Watchdog) : Happening → Watchdog × List Effect
  | .turn m i => ({ w with core := (w.core.step m i).1 }, (w.core.step m i).2)
  | .bind i => ((w.bindIndicator i).2, [.notice (w.bindIndicator i).1])
  | .finish m => w.finish m

/-- Whether something can happen to a watchdog. -/
def allows (w : Watchdog) : Happening → Bool
  | .turn m i => w.phase = .running && w.core.awaits m i
  | .bind _ => true
  | .finish _ => w.phase = .running && !w.core.emitting

/-- The watchdog after everything in a list happened. -/
def after (w : Watchdog) (hs : List Happening) : Watchdog :=
  hs.foldl (fun w h => (w.happen h).1) w

/-- Whether everything in a list can happen to a watchdog, one after the other. -/
def lives (w : Watchdog) : List Happening → Bool
  | [] => true
  | h :: hs => w.allows h && (w.happen h).1.lives hs

/-- The instants at which a heartbeat was handed to the channel. -/
def attempts (w : Watchdog) : List Happening → List ℕ
  | [] => []
  | h :: hs =>
    (h.instant?.toList.flatMap fun now =>
      List.replicate ((w.happen h).2.countP Effect.isEmit) now) ++ (w.happen h).1.attempts hs

variable {w : Watchdog} {h : Happening} {hs xs ys : List Happening}

/-! ## Lives -/

@[simp] lemma after_nil (w : Watchdog) : w.after [] = w := rfl

@[simp] lemma after_cons (w : Watchdog) (h : Happening) (hs : List Happening) :
    w.after (h :: hs) = (w.happen h).1.after hs := rfl

@[simp] lemma after_append (w : Watchdog) (xs ys : List Happening) :
    w.after (xs ++ ys) = (w.after xs).after ys := by
  simp [after, List.foldl_append]

lemma after_concat (w : Watchdog) (hs : List Happening) (h : Happening) :
    w.after (hs ++ [h]) = ((w.after hs).happen h).1 := after_append w hs [h]

lemma lives_cons : w.lives (h :: hs) ↔ w.allows h ∧ (w.happen h).1.lives hs := by
  simp [lives]

lemma lives_append : w.lives (xs ++ ys) ↔ w.lives xs ∧ (w.after xs).lives ys := by
  induction xs generalizing w with
  | nil => simp [lives]
  | cons h xs ih => rw [List.cons_append, lives_cons, lives_cons, ih, after_cons, and_assoc]

/-- What happens in a life can happen after what came before. -/
lemma lives_append_cons :
    w.lives (xs ++ h :: ys) ↔
      w.lives xs ∧ (w.after xs).allows h ∧ ((w.after xs).happen h).1.lives ys := by
  rw [lives_append, lives_cons]

/-- **What every happening keeps holds ever after.** -/
lemma after_induction {P : Watchdog → Prop}
    (step : ∀ w h, P w → w.allows h → P (w.happen h).1) (hw : P w) (hl : w.lives hs) :
    P (w.after hs) := by
  induction hs generalizing w with
  | nil => exact hw
  | cons h hs ih =>
    obtain ⟨h1, h2⟩ := lives_cons.mp hl
    exact ih (step w h hw h1) h2

lemma allows_turn_iff {m : Moment} {i : Incident} :
    w.allows (.turn m i) ↔ w.phase = .running ∧ w.core.awaits m i := by
  simp [allows]

lemma allows_finish_iff {m : Moment} :
    w.allows (.finish m) ↔ w.phase = .running ∧ w.core.emitting = false := by
  simp [allows]

/-- The regime of a watchdog depends on nothing but the incidents it met. -/
lemma regime_happen (w : Watchdog) (h : Happening) :
    (w.happen h).1.core.regime = w.core.regime.next w.core.config h := by
  cases h with
  | turn m i => exact Core.regime_step m w.core i
  | bind i => rfl
  | finish m => exact Core.regime_finish m w.core

/-- What is shown is what others see from then on. -/
lemma eq_of_publish_mem_happen {s : Status} (hs : Effect.publish s ∈ (w.happen h).2) :
    s = (w.happen h).1.core.published := by
  cases h with
  | turn m i => exact Core.eq_of_publish_mem_step m w.core hs
  | bind i => simp [happen] at hs
  | finish m => exact Core.eq_of_publish_mem_finish m w.core hs

/-! ## Heartbeats -/

lemma countP_isEmit_tellClock (held listening : Bool) (ks : List ClockCommand) :
    (Core.tellClock held listening ks).countP Effect.isEmit = 0 := by
  rw [Core.tellClock]
  split
  · rfl
  split
  · simp [List.countP_eq_zero, Effect.isEmit]
  · rfl

/-- A heartbeat is handed to the channel exactly in a turn that takes a tick. -/
lemma countP_isEmit_happen (ha : w.allows h) :
    (w.happen h).2.countP Effect.isEmit = if h.isTick then 1 else 0 := by
  rw [← Effect.countP_isEmit_acts]
  cases h with
  | bind i => rfl
  | finish m =>
    have he : (w.happen (.finish m)).2 = (w.core.finish m).2 := rfl
    rw [he, Core.finish_acts, List.countP_append, countP_isEmit_tellClock]
    rfl
  | turn m i =>
    obtain ⟨-, haw⟩ := allows_turn_iff.mp ha
    have he : (w.happen (.turn m i)).2 = (w.core.step m i).2 := rfl
    obtain ⟨c', -, ho⟩ := Core.step_outcome m w.core i
    rw [he]
    generalize (w.core.step m i).2.filter Effect.isAct = acts at ho
    cases ho with
    | kept hr hd =>
      rw [Happening.isTick_turn]
      · rfl
      · rintro rfl
        simp [Core.awaits, hd rfl] at haw
    | changed hr =>
      rw [Core.adoptActs, countP_isEmit_tellClock, Happening.isTick_turn]
      · rfl
      · rintro rfl
        exact hr rfl
    | _ => rfl

/-- The instant of a tick that is taken is the instant of an attempt. -/
lemma attempts_tick {m : Moment} (ha : w.allows (.turn m .due)) :
    w.attempts (.turn m .due :: hs) = m.now :: (w.happen (.turn m .due)).1.attempts hs := by
  rw [attempts, countP_isEmit_happen ha]
  rfl

/-- Nothing else is an attempt. -/
lemma attempts_of_isTick_eq_false (ha : w.allows h) (ht : h.isTick = false) :
    w.attempts (h :: hs) = (w.happen h).1.attempts hs := by
  rw [attempts, countP_isEmit_happen ha, ht]
  cases h.instant? <;> rfl

lemma isTick_eq_false_of_attempts (ha : w.allows h) (hn : w.attempts (h :: hs) = []) :
    h.isTick = false := by
  refine Bool.eq_false_iff.mpr fun ht => ?_
  obtain ⟨m, rfl⟩ := Happening.isTick_iff.mp ht
  rw [attempts_tick ha] at hn
  cases hn

lemma attempts_singleton {b : ℕ} (ha : w.allows h) (hb : w.attempts [h] = [b]) :
    ∃ m, h = .turn m .due ∧ m.now = b := by
  by_cases ht : h.isTick
  · obtain ⟨m, rfl⟩ := Happening.isTick_iff.mp ht
    rw [attempts_tick ha] at hb
    exact ⟨m, rfl, List.head_eq_of_cons_eq hb⟩
  · rw [attempts_of_isTick_eq_false ha (Bool.eq_false_iff.mpr ht)] at hb
    cases hb

/-- Once the loop has ended no heartbeat is sent. -/
lemma attempts_of_ended (hp : w.phase ≠ .running) (hl : w.lives hs) : w.attempts hs = [] := by
  induction hs generalizing w with
  | nil => rfl
  | cons h hs ih =>
    obtain ⟨ha, hl'⟩ := lives_cons.mp hl
    cases h with
    | bind i => exact (attempts_of_isTick_eq_false ha rfl).trans (ih hp hl')
    | turn m i => exact absurd (allows_turn_iff.mp ha).1 hp
    | finish m => exact absurd (allows_finish_iff.mp ha).1 hp

lemma emit_mem_happen_iff (ha : w.allows h) : Effect.emit ∈ (w.happen h).2 ↔ h.isTick := by
  have hc : Effect.emit ∈ (w.happen h).2 ↔ 0 < (w.happen h).2.countP Effect.isEmit := by
    rw [List.countP_pos_iff]
    constructor
    · intro he
      exact ⟨_, he, rfl⟩
    · rintro ⟨e, he, hemit⟩
      cases e <;> first | exact he | cases hemit
  rw [hc, countP_isEmit_happen ha]
  cases h.isTick <;> simp

/-- In a turn that takes a tick, one is due. -/
lemma tick_due_of_allows {m : Moment} (ha : w.allows (.turn m .due)) :
    ∃ d t, w.core.timer.tick? m.now = some (d, t) := by
  have h := (allows_turn_iff.mp ha).2
  simp only [Core.awaits, Bool.and_eq_true] at h
  obtain ⟨⟨d, t⟩, ht⟩ := Option.isSome_iff_exists.mp h.2
  exact ⟨d, t, ht⟩

end Watchdog

end LinkWatch
