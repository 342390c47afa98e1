/-
# The distance between heartbeats

Nothing is assumed here about when the loop gets round to a tick that is due, nor about how long a
heartbeat takes to be sent.  Still heartbeats never come in a burst: after a heartbeat, and after a
change of the regime, the timer rests for an interval before it ticks again (`Core.Rests`), except
that a tick which is taken a little late does not delay the ones after it.

`Watchdog.heartbeats_apart` says so for every life, and that therefore the drift which is shown is
never below the tolerance.
-/
import LinkWatch.Proofs.Watchdog.Consistency

namespace LinkWatch

/-- Ticks that are less than an interval apart by no more than five milliseconds. -/
lemma neg_five_le_driftMs {elapsed : ℕ} {n : UInt64} (h : millis n.toNat ≤ elapsed + millis 5) :
    -5 ≤ driftMs elapsed n := by
  have hdiv : n.toNat ≤ elapsed / nanosPerMilli + 5 := by
    unfold millis nanosPerMilli at h
    rw [nanosPerMilli]
    omega
  rw [driftMs]
  omega

namespace Core

variable {config : HeartbeatConfig} {m : Moment} {c c' : Core} {i : Incident}
  {acts : List Effect} {a a' now slack slack' d : ℕ} {t : Timer}

/-! ## Rest -/

/-- The next tick comes one interval after the instant `a` or later, but for some slack. -/
def Rests (a slack : ℕ) (c : Core) : Prop :=
  ∀ d, c.timer.deadline? = some d → a + c.regime.interval ≤ d + slack

/-- When a tick is taken, the rest is over. -/
lemma Rests.le_of_tick (h : c.Rests a slack) (ht : c.timer.tick? m.now = some (d, t)) :
    a + c.regime.interval ≤ m.now + slack := by
  obtain ⟨hd, hle, -⟩ := Timer.tick?_eq_some_iff.mp ht
  exact Nat.le_trans (h d hd) (Nat.add_le_add_right hle slack)

/-- After a tick the timer rests, as if the tick had been taken in time when it was only a little
late. -/
lemma rests_of_tick (hc : c.Consistent config) (ht : c.timer.tick? m.now = some (d, t)) :
    (c.step m .due).1.Rests m.now Timer.tolerance := by
  obtain ⟨hd, hle, rfl⟩ := Timer.tick?_eq_some_iff.mp ht
  have hr : (c.step m .due).1.regime = c.regime := regime_step m c .due
  intro e he
  rw [step_due ht, beginPing_fst ht] at he
  cases he
  rw [hr, ← hc.follows.period]
  by_cases hlate : m.now ≤ d + Timer.tolerance
  · rw [Timer.nextDeadline_of_le hlate]
    omega
  · rw [Timer.nextDeadline_of_lt (Nat.lt_of_not_le hlate)]
    omega

/-- After a change of the regime the timer rests. -/
lemma rests_of_ne (hv : config.Valid) (hc : c.Consistent config)
    (hne : c.regime.after c.config i ≠ c.regime) : (c.step m i).1.Rests m.now 0 := by
  have hi : i ≠ .due := by
    rintro rfl
    exact hne rfl
  have hb := (hc.step hv m i).bounded.nanosPerMilli_le hv
  rw [regime_step] at hb
  intro e he
  rw [timer_step m c hi, hc.follows.deadline?_retime m.now hb hne] at he
  rw [regime_step]
  split at he
  · cases he
    exact Nat.le_add_right _ 0
  · cases he

/-- The rest goes on until a tick is taken. -/
lemma Rests.step (h : c.Rests a slack) (hv : config.Valid) (hc : c.Consistent config)
    (hi : i ≠ .due) (ha : a ≤ m.now) : (c.step m i).1.Rests a slack := by
  by_cases hne : c.regime.after c.config i = c.regime
  · intro e he
    rw [timer_step m c hi, hne, Regime.retime_self] at he
    rw [regime_step, hne]
    exact h e he
  · intro e he
    have hrest := rests_of_ne (m := m) hv hc hne e he
    omega

/-! ## Drift -/

/-- The drifts that were found are not below the tolerance, and neither will be the next. -/
structure Paced (now : ℕ) (c : Core) : Prop where
  past : ∀ last, c.lastForegroundPing? = some last → last ≤ now
  rests : ∀ last, c.lastForegroundPing? = some last → c.Rests last Timer.tolerance
  drift : ∀ d, c.status.foregroundDriftMs? = some d → -5 ≤ d
  published : ∀ d, c.published.foregroundDriftMs? = some d → -5 ≤ d

namespace Outcome

/-- Only a tick finds a drift. -/
lemma foregroundDriftMs? (h : Outcome m c i c' acts) (hi : i ≠ .due) :
    c'.status.foregroundDriftMs? = c.status.foregroundDriftMs? := by
  cases h with
  | begun => exact absurd rfl hi
  | answered result => cases result <;> rfl
  | _ => rfl

/-- Nothing is shown before the end of a turn. -/
lemma published (h : Outcome m c i c' acts) : c'.published = c.published := by
  cases h with
  | begun ht => rw [beginPing_fst ht]
  | answered result => cases result <;> rfl
  | _ => rfl

end Outcome

lemma foregroundDriftMs?_shown (c : Core) :
    c.shown.status.foregroundDriftMs? = c.status.foregroundDriftMs? := by
  rw [shown]
  split <;> rfl

lemma published_shown_eq_or (c : Core) :
    c.shown.published = c.published ∨
      c.shown.published.foregroundDriftMs? = c.status.foregroundDriftMs? := by
  rw [shown]
  split
  · exact .inl rfl
  · exact .inr rfl

/-- A tick that is taken finds a drift which is not below the tolerance. -/
lemma Paced.step_due (h : c.Paced now) (hc : c.Consistent config)
    (ht : c.timer.tick? m.now = some (d, t)) : (c.step m .due).1.Paced m.now := by
  have hrest := rests_of_tick hc ht
  rw [Core.step_due ht, beginPing_fst ht] at hrest ⊢
  refine ⟨fun last hl => ?_, fun last hl => ?_, fun e he => ?_, h.published⟩
  · cases hl
    exact Nat.le_refl _
  · cases hl
    exact hrest
  · cases hlast : c.lastForegroundPing? with
    | none =>
      simp only [hlast, Option.map_none, Option.none_or] at he
      exact h.drift e he
    | some last =>
      simp only [hlast, Option.map_some, Option.some_or, Option.some.injEq] at he
      subst he
      have hle := (h.rests last hlast).le_of_tick ht
      have hI : c.regime.interval = millis c.status.intervalMs.toNat := rfl
      have htol : Timer.tolerance = millis 5 := rfl
      exact neg_five_le_driftMs (by omega)

lemma Paced.step (h : c.Paced now) (hv : config.Valid) (hc : c.Consistent config) (hi : i ≠ .due)
    (hle : now ≤ m.now) : (c.step m i).1.Paced m.now := by
  obtain ⟨c', hc', ho⟩ := step_outcome m c i
  have hlast : ∀ last, (c.step m i).1.lastForegroundPing? = some last →
      c.lastForegroundPing? = some last := by
    intro last hl
    rw [hc', lastForegroundPing?_shown] at hl
    exact ho.lastForegroundPing? hi hl
  have hdrift : (c.step m i).1.status.foregroundDriftMs? = c.status.foregroundDriftMs? := by
    rw [hc', foregroundDriftMs?_shown, ho.foregroundDriftMs? hi]
  refine ⟨fun last hl => ?_, fun last hl => ?_, hdrift ▸ h.drift, fun e he => ?_⟩
  · exact Nat.le_trans (h.past last (hlast last hl)) hle
  · have hl' := hlast last hl
    exact (h.rests last hl').step hv hc hi (Nat.le_trans (h.past last hl') hle)
  · -- either nothing new is shown, or the drift that was found before
    rw [hc'] at he
    rcases published_shown_eq_or c' with heq | heq
    · rw [heq, ho.published] at he
      exact h.published e he
    · rw [heq, ho.foregroundDriftMs? hi] at he
      exact h.drift e he

end Core

namespace Watchdog

variable {config : HeartbeatConfig} {workerHeld : Bool} {w : Watchdog} {h : Happening}
  {hs : List Happening} {now a slack : ℕ}

/-- Once the loop has ended no tick comes at all. -/
lemma rests_finish (m : Moment) (w : Watchdog) : (w.happen (.finish m)).1.core.Rests a slack := by
  intro d hd
  have hnone : (w.happen (.finish m)).1.core.timer.deadline? = none := by
    show (w.core.finish m).1.timer.deadline? = none
    rw [Core.finish_fst]
    rfl
  rw [hnone] at hd
  cases hd

/-- The rest goes on until a tick is taken. -/
lemma rests_happen (hv : config.Valid) (hc : w.Consistent config) (ha : w.allows h)
    (ht : h.isTick = false) (hle : ∀ t, h.instant? = some t → a ≤ t)
    (hr : w.core.Rests a slack) : (w.happen h).1.core.Rests a slack := by
  cases h with
  | bind i => exact hr
  | finish m => exact rests_finish m w
  | turn m i =>
    have hi : i ≠ .due := by
      rintro rfl
      cases ht
    exact hr.step hv (hc (allows_turn_iff.mp ha).1) hi (hle m.now rfl)

lemma rests_after (hv : config.Valid) (hc : w.Consistent config) (hl : w.lives hs)
    (hnone : w.attempts hs = []) (hle : ∀ t ∈ Happening.instants hs, a ≤ t)
    (hr : w.core.Rests a slack) : (w.after hs).core.Rests a slack := by
  induction hs generalizing w with
  | nil => exact hr
  | cons h hs ih =>
    obtain ⟨ha, hl'⟩ := lives_cons.mp hl
    have ht := isTick_eq_false_of_attempts ha hnone
    rw [attempts_of_isTick_eq_false ha ht] at hnone
    refine ih (hc.happen hv ha) hl' hnone (fun t hmem => ?_) ?_
    · exact hle t (Happening.instants_subset_cons h hs hmem)
    · exact rests_happen hv hc ha ht (fun t hat => hle t (Happening.mem_instants_cons hat)) hr

/-- When the next heartbeat is sent, the rest is over. -/
lemma Consistent.interval_le {ys zs : List Happening} {k : Happening} {b : ℕ}
    (hc : w.Consistent config) (hv : config.Valid) (hl : w.lives (ys ++ k :: zs))
    (hnone : w.attempts ys = []) (hb : (w.after ys).attempts [k] = [b])
    (hle : ∀ t ∈ Happening.instants ys, a ≤ t) (hr : w.core.Rests a slack) :
    a + (w.after ys).core.regime.interval ≤ b + slack := by
  obtain ⟨hly, ha, -⟩ := lives_append_cons.mp hl
  obtain ⟨m, rfl, rfl⟩ := attempts_singleton ha hb
  obtain ⟨d, u, hu⟩ := tick_due_of_allows ha
  exact (rests_after hv hc hly hnone hle hr).le_of_tick hu

lemma paced_happen (hv : config.Valid) (hc : w.Consistent config) (ha : w.allows h)
    (hle : ∀ t, h.instant? = some t → now ≤ t) (hp : w.core.Paced now) :
    (w.happen h).1.core.Paced (h.instant?.getD now) := by
  cases h with
  | bind i => exact ⟨hp.past, hp.rests, hp.drift, hp.published⟩
  | finish m =>
    have hf : (w.happen (.finish m)).1.core = _ := Core.finish_fst m w.core
    refine ⟨fun last hl => ?_, fun last _ => rests_finish m w, fun e he => ?_, fun e he => ?_⟩
    · rw [hf] at hl
      exact Nat.le_trans (hp.past last hl) (hle m.now rfl)
    · rw [hf] at he
      exact hp.drift e he
    · rw [hf] at he
      exact hp.drift e he
  | turn m i =>
    have hcore := hc (allows_turn_iff.mp ha).1
    by_cases hi : i = .due
    · subst hi
      obtain ⟨d, t, ht⟩ := tick_due_of_allows ha
      exact hp.step_due hcore ht
    · exact hp.step hv hcore hi (hle m.now rfl)

/-- In the course of a life no drift is found that is below the tolerance. -/
lemma paced_after (hv : config.Valid) (hc : w.Consistent config) (hl : w.lives hs)
    (hord : (now :: Happening.instants hs).Pairwise (· ≤ ·)) (hp : w.core.Paced now) :
    ∃ last, (w.after hs).core.Paced last := by
  induction hs generalizing w now with
  | nil => exact ⟨now, hp⟩
  | cons h hs ih =>
    obtain ⟨ha, hl'⟩ := lives_cons.mp hl
    have hle : ∀ t, h.instant? = some t → now ≤ t := fun t ht =>
      (List.pairwise_cons.mp hord).1 t (Happening.mem_instants_cons ht)
    refine ih (hc.happen hv ha) hl' ?_ (paced_happen hv hc ha hle hp)
    cases h with
    | bind i => exact hord
    | _ => exact (List.pairwise_cons.mp hord).2

lemma paced_launch (config : HeartbeatConfig) (workerHeld : Bool) :
    (launch config workerHeld).core.Paced 0 := by
  refine ⟨?_, ?_, ?_, ?_⟩ <;> intro _ h <;> cases h

/-- **Heartbeats never come in a burst.**  Take any life that starts with a valid configuration, at
instants that do not run backwards, and in it a heartbeat at the instant `b`.

* If the one before was at the instant `a`, then `b` is not earlier than the interval in force
  after `a`, but for five milliseconds.
* If the regime changed at an instant `t` since the one before, because the network came or went or
  another interval was set, then `b` is not earlier than the interval in force after `t`.

Therefore no drift is ever shown that is below minus five milliseconds. -/
theorem heartbeats_apart (valid : config.validate = .ok ())
    (lives : (launch config workerHeld).lives hs)
    (ordered : (Happening.instants hs).Pairwise (· ≤ ·)) :
    let w := launch config workerHeld
    (∀ xs h ys k zs b, hs = xs ++ h :: (ys ++ k :: zs) →
      (w.after (xs ++ [h])).attempts ys = [] → (w.after (xs ++ h :: ys)).attempts [k] = [b] →
      let interval := millis (w.after (xs ++ h :: ys)).core.status.intervalMs.toNat
      (∀ a, (w.after xs).attempts [h] = [a] → a + interval ≤ b + millis 5) ∧
      ∀ t, h.instant? = some t →
        (w.after (xs ++ [h])).core.regime ≠ (w.after xs).core.regime → t + interval ≤ b) ∧
    (∀ xs h zs s, hs = xs ++ h :: zs → Effect.publish s ∈ ((w.after xs).happen h).2 →
      ∀ d, s.foregroundDriftMs? = some d → -5 ≤ d) := by
  have hv := HeartbeatConfig.valid_of_validate valid
  have hlaunch := consistent_launch hv workerHeld
  refine ⟨?_, ?_⟩
  · rintro xs h ys k zs b rfl hnone hb
    obtain ⟨hlx, ha, hl⟩ := lives_append_cons.mp lives
    have hc := hlaunch.after hv hlx
    simp only [after_append, after_cons, after_nil] at hnone hb ⊢
    have hle : ∀ t, h.instant? = some t → ∀ u ∈ Happening.instants ys, t ≤ u := by
      intro t ht u hu
      refine Happening.le_of_mem_instants ordered ht ?_
      rw [Happening.instants_append]
      exact List.mem_append_left _ hu
    refine ⟨fun a hat => ?_, fun t ht hne => ?_⟩
    · -- the rest after the heartbeat before
      obtain ⟨m, rfl, rfl⟩ := attempts_singleton ha hat
      obtain ⟨d, u, hu⟩ := tick_due_of_allows ha
      have hrest := Core.rests_of_tick (hc (allows_turn_iff.mp ha).1) hu
      exact (hc.happen hv ha).interval_le hv hl hnone hb (hle m.now rfl) hrest
    · -- the rest after the change of the regime
      have hrest : (((launch config workerHeld).after xs).happen h).1.core.Rests t 0 := by
        rw [regime_happen] at hne
        cases h with
        | turn m i =>
          cases ht
          exact Core.rests_of_ne hv (hc (allows_turn_iff.mp ha).1) hne
        | _ => exact absurd rfl hne
      exact (hc.happen hv ha).interval_le hv hl hnone hb (hle t ht) hrest
  · rintro xs h zs s rfl hs
    have hsplit : xs ++ h :: zs = (xs ++ [h]) ++ zs := by simp
    rw [hsplit] at lives ordered
    have hord : (0 :: Happening.instants (xs ++ [h])).Pairwise (· ≤ ·) :=
      List.pairwise_cons.mpr ⟨fun t _ => Nat.zero_le t, ordered.sublist (by
        rw [Happening.instants_append (xs ++ [h])]
        exact List.sublist_append_left _ _)⟩
    obtain ⟨last, hp⟩ := paced_after hv hlaunch (lives_append.mp lives).1 hord
      (paced_launch config workerHeld)
    have he := eq_of_publish_mem_happen hs
    rw [he]
    rw [after_append] at hp
    exact hp.published

/-- The second heartbeat is sent a little late, and the third in time. -/
def aLittleLate : List Happening :=
  firstHeartbeat ++
    .turn ⟨millis 4004, .epoch, true⟩ .due ::
      ([.turn ⟨millis 4004, .epoch, true⟩ (.emitted (.ok ()))] ++
        [.turn ⟨millis 6000, .epoch, true⟩ .due,
          .turn ⟨millis 6000, .epoch, true⟩ (.emitted (.ok ()))])

theorem heartbeats_apart_a_little_late :
    (launch {} true).lives aLittleLate = true ∧
      (launch {} true).attempts aLittleLate = [millis 2000, millis 4004, millis 6000] ∧
      millis 4004 + millis 2000 ≤ millis 6000 + millis 5 ∧
      ((launch {} true).after aLittleLate).core.published.foregroundDriftMs? = some (-4) := by
  have hl : (launch {} true).lives aLittleLate = true := by decide
  obtain ⟨h, -⟩ := heartbeats_apart rfl hl (by decide)
  exact ⟨hl, by decide, (h _ _ _ _ _ (millis 6000) rfl rfl rfl).1 (millis 4004) rfl, by decide⟩

end Watchdog

end LinkWatch
