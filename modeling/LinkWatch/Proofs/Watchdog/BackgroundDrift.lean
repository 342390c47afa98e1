/-
# The drift of the background clock

The event loop compares each tick of the background clock that it counts with the one before, and
what it finds is the background drift.  When the network goes it forgets the last tick, for the
time offline is not meant to count as drift.  In fact the network never goes between the two ticks
that a drift is found from, and it was there all the time in between if it was there when the
first of them was counted (`Watchdog.background_drift_between_ticks`).

It need not have been there.  The ticks wait in a queue, and one that waits when the network goes is
counted afterwards.  This tick is not forgotten, since the network does not go again before it
comes, and the first tick after that is compared with it: the time offline shows up as drift after
all (`Coupled.background_drift_across_gap`).
-/
import LinkWatch.Proofs.Watchdog.TwoTimers

namespace LinkWatch

namespace Core

variable {m : Moment} {c c' : Core} {i : Incident} {acts : List Effect}

/-! ## What is remembered of a background tick -/

namespace Outcome

/-- The last background tick is forgotten when the network goes, and only then. -/
lemma lastBackgroundPing? (h : Outcome m c i c' acts) (hi : i ≠ .workerTick) :
    c'.lastBackgroundPing? =
      if c.status.onLine && !c'.status.onLine then none else c.lastBackgroundPing? := by
  cases h with
  | changed => rfl
  | counted => exact absurd rfl hi
  | begun ht => simp [beginPing_fst ht]
  | answered result => cases result <;> simp [endPing]
  | _ => simp

/-- Only a tick of the background clock finds a drift of it. -/
lemma backgroundDriftMs? (h : Outcome m c i c' acts) (hi : i ≠ .workerTick) :
    c'.status.backgroundDriftMs? = c.status.backgroundDriftMs? := by
  cases h with
  | counted => exact absurd rfl hi
  | begun ht => rw [beginPing_fst ht]
  | answered result => cases result <;> rfl
  | _ => rfl

end Outcome

@[simp] lemma lastBackgroundPing?_shown (c : Core) :
    c.shown.lastBackgroundPing? = c.lastBackgroundPing? := by rw [shown_eq]

@[simp] lemma onLine_shown (c : Core) : c.shown.status.onLine = c.status.onLine :=
  congrArg Regime.onLine (regime_shown c)

lemma backgroundDriftMs?_shown (c : Core) :
    c.shown.status.backgroundDriftMs? = c.status.backgroundDriftMs? := by
  rw [shown]
  split <;> rfl

end Core

namespace Watchdog

variable {config : HeartbeatConfig} {workerHeld : Bool} {w : Watchdog} {h : Happening}
  {hs xs ys : List Happening} {m : Moment} {t : ℕ}

/-- Whatever else happens finds no drift of the background clock, and its last tick is forgotten
just when the network goes. -/
lemma background_happen (hb : h.isBackgroundTick = false) :
    (w.happen h).1.core.lastBackgroundPing? =
        (if w.core.status.onLine && !(w.happen h).1.core.status.onLine then none
          else w.core.lastBackgroundPing?) ∧
      (w.happen h).1.core.status.backgroundDriftMs? = w.core.status.backgroundDriftMs? := by
  cases h with
  | bind i => simp [happen, bindIndicator]
  | finish m =>
    have hf : (w.happen (.finish m)).1.core = _ := Core.finish_fst m w.core
    rw [hf]
    simp [Core.publish, Core.snapshot]
  | turn m i =>
    have hi : i ≠ .workerTick := by
      rintro rfl
      cases hb
    obtain ⟨c', hc', ho⟩ := Core.step_outcome m w.core i
    have hcore : (w.happen (.turn m i)).1.core = c'.shown := hc'
    rw [hcore, Core.lastBackgroundPing?_shown, Core.onLine_shown, Core.backgroundDriftMs?_shown]
    exact ⟨ho.lastBackgroundPing? hi, ho.backgroundDriftMs? hi⟩

lemma happen_workerTick (w : Watchdog) (m : Moment) :
    (w.happen (.turn m .workerTick)).1.core = (w.core.backgroundTick m).1.shown :=
  Core.step_fst m w.core .workerTick

/-! ## Lives in which the network does not go -/

/-- In the course of a life the network may come, but it does not go. -/
def Stays (w : Watchdog) : List Happening → Prop
  | [] => True
  | h :: hs =>
    (w.core.status.onLine = true → (w.happen h).1.core.status.onLine = true) ∧
      (w.happen h).1.Stays hs

lemma stays_append : w.Stays (xs ++ ys) ↔ w.Stays xs ∧ (w.after xs).Stays ys := by
  induction xs generalizing w with
  | nil => simp [Stays]
  | cons h xs ih => rw [List.cons_append, Stays, Stays, ih, after_cons, and_assoc]

/-- When the network is there and does not go, it is there all the time. -/
lemma Stays.onLine (hst : w.Stays hs) (hon : w.core.status.onLine = true) (hx : xs <+: hs) :
    (w.after xs).core.status.onLine = true := by
  obtain ⟨ys, rfl⟩ := hx
  replace hst := (stays_append.mp hst).1
  induction xs generalizing w with
  | nil => exact hon
  | cons h xs ih => exact ih (hst.1 hon) hst.2

/-- The last background tick of a life was counted at the instant `t`, and the network did not go
since. -/
def TickedSince (w : Watchdog) (hs : List Happening) (t : ℕ) : Prop :=
  ∃ xs m ys, hs = xs ++ .turn m .workerTick :: ys ∧ m.now = t ∧
    ys.all (!·.isBackgroundTick) ∧ (w.after xs).Stays (.turn m .workerTick :: ys)

/-- It is still the last one when something else happened, unless the network went. -/
lemma TickedSince.concat (ht : w.TickedSince hs t) (hb : h.isBackgroundTick = false)
    (hon : (w.after hs).core.status.onLine = true →
      ((w.after hs).happen h).1.core.status.onLine = true) : w.TickedSince (hs ++ [h]) t := by
  obtain ⟨xs, m, ys, rfl, rfl, hys, hst⟩ := ht
  rw [after_append] at hon
  refine ⟨xs, m, ys ++ [h], by simp, rfl, by simp [hys, hb], ?_⟩
  rw [← List.cons_append, stays_append]
  exact ⟨hst, hon, trivial⟩

lemma tickedSince_concat (w : Watchdog) (hs : List Happening) (m : Moment) :
    w.TickedSince (hs ++ [.turn m .workerTick]) m.now := by
  refine ⟨hs, m, [], rfl, rfl, rfl, fun hon => ?_, trivial⟩
  rw [happen_workerTick, Core.onLine_shown]
  exact hon

/-- The tick that is remembered is the last one, and the network did not go since. -/
lemma tickedSince
    (ht : ((launch config workerHeld).after hs).core.lastBackgroundPing? = some t) :
    (launch config workerHeld).TickedSince hs t := by
  -- induction on the life, the latest happening first
  induction hs using List.reverseRecOn with
  | nil => cases ht
  | append_singleton xs h ih =>
    rw [after_concat] at ht
    cases hb : h.isBackgroundTick with
    | true =>
      obtain ⟨m, rfl⟩ := Happening.isBackgroundTick_iff.mp hb
      rw [happen_workerTick, Core.lastBackgroundPing?_shown] at ht
      obtain rfl : m.now = t := Option.some.inj ht
      exact tickedSince_concat _ xs m
    | false =>
      rw [(background_happen hb).1] at ht
      split at ht
      · cases ht
      next hst => exact (ih ht).concat hb (by simpa using hst)

/-! ## Drift -/

/-- A drift was found from two background ticks of a life, the one next to the other, and the
network did not go from the first of them on until the second was counted. -/
def FoundDrift (w : Watchdog) (hs : List Happening) (d : ℤ) : Prop :=
  ∃ xs m₁ ys m₂ zs, hs = xs ++ .turn m₁ .workerTick :: (ys ++ .turn m₂ .workerTick :: zs) ∧
    ys.all (!·.isBackgroundTick) ∧
    d = driftMs (m₂.now - m₁.now)
      (w.after (xs ++ .turn m₁ .workerTick :: ys)).core.status.intervalMs ∧
    (w.after xs).Stays (.turn m₁ .workerTick :: ys)

lemma FoundDrift.concat {d : ℤ} (hd : w.FoundDrift hs d) (h : Happening) :
    w.FoundDrift (hs ++ [h]) d := by
  obtain ⟨xs, m₁, ys, m₂, zs, rfl, hrest⟩ := hd
  exact ⟨xs, m₁, ys, m₂, zs ++ [h], by simp, hrest⟩

/-- The next tick finds a drift from the one that is remembered. -/
lemma TickedSince.foundDrift (ht : w.TickedSince hs t) (m : Moment) :
    w.FoundDrift (hs ++ [.turn m .workerTick])
      (driftMs (m.now - t) (w.after hs).core.status.intervalMs) := by
  obtain ⟨xs, m₁, ys, rfl, rfl, hys, hst⟩ := ht
  exact ⟨xs, m₁, ys, m, [], by simp, hys, rfl, hst⟩

lemma foundDrift {d : ℤ}
    (hd : ((launch config workerHeld).after hs).core.status.backgroundDriftMs? = some d) :
    (launch config workerHeld).FoundDrift hs d := by
  -- induction on the life, the latest happening first
  induction hs using List.reverseRecOn with
  | nil => cases hd
  | append_singleton xs h ih =>
    rw [after_concat] at hd
    cases hb : h.isBackgroundTick with
    | false =>
      rw [(background_happen hb).2] at hd
      exact (ih hd).concat h
    | true =>
      obtain ⟨m, rfl⟩ := Happening.isBackgroundTick_iff.mp hb
      rw [happen_workerTick, Core.backgroundDriftMs?_shown] at hd
      cases hlast : ((launch config workerHeld).after xs).core.lastBackgroundPing? with
      | none =>
        -- there is nothing to compare the tick with
        simp only [Core.backgroundTick, hlast, Option.map_none, Option.none_or] at hd
        exact (ih hd).concat _
      | some last =>
        simp only [Core.backgroundTick, hlast, Option.map_some, Option.some_or,
          Option.some.injEq] at hd
        exact hd ▸ (tickedSince hlast).foundDrift m

/-- **The network does not go between the ticks that a background drift is found from.**  The tick
that is remembered is the last one of the background clock, and the network did not go since it was
counted.  Therefore any drift that was ever found comes from two ticks, the one next to the other
and with the interval in force at the second, between which the network did not go; it was there
all the time in between exactly if it was there when the first was counted. -/
theorem background_drift_between_ticks (config : HeartbeatConfig) (workerHeld : Bool)
    (hs : List Happening) :
    let w := launch config workerHeld
    (∀ t, (w.after hs).core.lastBackgroundPing? = some t → w.TickedSince hs t) ∧
    ∀ d, (w.after hs).core.status.backgroundDriftMs? = some d →
      ∃ xs m₁ ys m₂ zs, hs = xs ++ .turn m₁ .workerTick :: (ys ++ .turn m₂ .workerTick :: zs) ∧
        ys.all (!·.isBackgroundTick) ∧
        d = driftMs (m₂.now - m₁.now)
          (w.after (xs ++ .turn m₁ .workerTick :: ys)).core.status.intervalMs ∧
        (w.after xs).Stays (.turn m₁ .workerTick :: ys) ∧
        ((w.after xs).core.status.onLine = true ↔
          ∀ ps, ps <+: .turn m₁ .workerTick :: ys →
            (w.after (xs ++ ps)).core.status.onLine = true) := by
  refine ⟨fun t => tickedSince, fun d hd => ?_⟩
  obtain ⟨xs, m₁, ys, m₂, zs, heq, hys, hdrift, hst⟩ := foundDrift hd
  refine ⟨xs, m₁, ys, m₂, zs, heq, hys, hdrift, hst, fun hon ps hps => ?_, fun hall => ?_⟩
  · rw [after_append]
    exact hst.onLine hon hps
  · simpa using hall [] List.nil_prefix

end Watchdog

namespace Coupled

/-- The background clock ticks just when the network goes.  The tick waits, and is counted when the
clock has already stopped.  Eight seconds later the network comes, and the clock starts and ticks
again. -/
def ticksAroundGap : List Move :=
  [.watchdog (.turn ⟨0, .epoch, true⟩ (.signal true)),
    .obey 0 (.start 2000),
    .tick (millis 2000),
    .watchdog (.turn ⟨millis 2000, .epoch, true⟩ (.signal false)),
    .obey (millis 2000) .stop,
    .watchdog (.turn ⟨millis 2000, .epoch, true⟩ .workerTick),
    .watchdog (.turn ⟨millis 10000, .epoch, true⟩ (.signal true)),
    .obey (millis 10000) (.start 2000),
    .tick (millis 12000),
    .watchdog (.turn ⟨millis 12000, .epoch, true⟩ .workerTick)]

/-- The first of the two background ticks that follow each other is counted while the network is
away. -/
lemma offline_of_ticksAroundGap {xs ys zs : List Happening} {m₁ m₂ : Moment}
    (h : life ticksAroundGap =
      xs ++ .turn m₁ .workerTick :: (ys ++ .turn m₂ .workerTick :: zs)) :
    xs = [.turn ⟨0, .epoch, true⟩ (.signal true),
      .turn ⟨millis 2000, .epoch, true⟩ (.signal false)] := by
  have hlife : life ticksAroundGap =
      [.turn ⟨0, .epoch, true⟩ (.signal true), .turn ⟨millis 2000, .epoch, true⟩ (.signal false),
        .turn ⟨millis 2000, .epoch, true⟩ .workerTick,
        .turn ⟨millis 10000, .epoch, true⟩ (.signal true),
        .turn ⟨millis 12000, .epoch, true⟩ .workerTick] := rfl
  rw [hlife] at h
  rcases xs with _ | ⟨a, _ | ⟨b, _ | ⟨x, xs⟩⟩⟩
  · simp at h
  · simp at h
  · simp only [List.cons_append, List.nil_append, List.cons.injEq] at h
    rw [← h.1, ← h.2.1]
  · -- there is only one more tick after the first
    simp only [List.cons_append, List.cons.injEq] at h
    have hcount := congrArg (List.countP Happening.isBackgroundTick) h.2.2.2
    simp [List.countP_cons, Happening.isBackgroundTick] at hcount
    omega

/-- **A gap shows up as drift.**  The only two background ticks of this run that follow each other
lie at the two ends of a gap of eight seconds.  The first is counted and remembered while the
network is away, and the drift that is found at the second is the gap. -/
theorem background_drift_across_gap :
    let w := Watchdog.launch {} true
    ∃ t, Run (launch {}) ticksAroundGap t ∧
      t.watchdog.core.status.backgroundDriftMs? = some 8000 ∧
      ∀ xs m₁ ys m₂ zs,
        life ticksAroundGap = xs ++ .turn m₁ .workerTick :: (ys ++ .turn m₂ .workerTick :: zs) →
          (w.after xs).core.status.onLine = false ∧
            (w.after (xs ++ [.turn m₁ .workerTick])).core.lastBackgroundPing? = some m₁.now := by
  intro w
  have r1 := (Run.start (s := launch {})).next (.watchdog rfl rfl rfl)
    (m := .watchdog (.turn ⟨0, .epoch, true⟩ (.signal true)))
  have r2 := r1.next (.obey rfl) (m := .obey 0 (.start 2000))
  have r3 := r2.next (.tick (by decide) rfl) (m := .tick (millis 2000))
  have r4 := r3.next (.watchdog rfl rfl rfl)
    (m := .watchdog (.turn ⟨millis 2000, .epoch, true⟩ (.signal false)))
  have r5 := r4.next (.obey rfl) (m := .obey (millis 2000) .stop)
  have r6 := r5.next (.watchdog rfl rfl rfl)
    (m := .watchdog (.turn ⟨millis 2000, .epoch, true⟩ .workerTick))
  have r7 := r6.next (.watchdog rfl rfl rfl)
    (m := .watchdog (.turn ⟨millis 10000, .epoch, true⟩ (.signal true)))
  have r8 := r7.next (.obey rfl) (m := .obey (millis 10000) (.start 2000))
  have r9 := r8.next (.tick (by decide) rfl) (m := .tick (millis 12000))
  have run := r9.next (.watchdog rfl rfl rfl)
    (m := .watchdog (.turn ⟨millis 12000, .epoch, true⟩ .workerTick))
  refine ⟨_, run, by decide, fun xs m₁ ys m₂ zs h => ?_⟩
  obtain rfl := offline_of_ticksAroundGap h
  exact ⟨rfl, rfl⟩

end Coupled

end LinkWatch
