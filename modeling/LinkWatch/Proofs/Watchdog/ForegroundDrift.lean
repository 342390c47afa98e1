/-
# The drift of the foreground timer

The event loop compares each foreground tick with the one before, and what it finds is the
foreground drift: the time between the two, less the interval that is in force at the second.  If
the interval was the same all the time, and both ticks were taken when they were due, there is no
drift.  But a change of the interval sets the timer anew, so that the second tick comes one new
interval after the change and not after the first tick; and then the time from the first tick to the
change is taken for drift, although no tick was late (`Watchdog.drift_without_delay`).

`Watchdog.drift_of_ticks_in_time` says so for every life in which the ticks are taken in time.
-/
import LinkWatch.Proofs.Watchdog.NextTick
import LinkWatch.Proofs.Watchdog.Spacing

namespace LinkWatch

/-! ## Drift -/

/-- Ticks that are an interval apart, or more, have no negative drift. -/
lemma driftMs_add_nonneg (elapsed : ℕ) (n : UInt64) : 0 ≤ driftMs (elapsed + millis n.toNat) n := by
  have hdiv : (elapsed + millis n.toNat) / nanosPerMilli = elapsed / nanosPerMilli + n.toNat := by
    rw [millis]
    exact Nat.add_mul_div_right _ _ (by decide)
  have hmin : min n.toNat maxSigned ≤ min (elapsed / nanosPerMilli + n.toNat) maxSigned :=
    Nat.le_min.mpr ⟨Nat.le_trans (Nat.min_le_left _ _) (Nat.le_add_left _ _), Nat.min_le_right _ _⟩
  rw [driftMs, hdiv]
  exact Int.sub_nonneg_of_le (Int.ofNat_le.mpr hmin)

/-- Ticks that are just an interval apart have no drift. -/
lemma driftMs_interval (n : UInt64) : driftMs (millis n.toNat) n = 0 := by
  have hdiv : millis n.toNat / nanosPerMilli = n.toNat := by
    rw [millis]
    exact Nat.mul_div_cancel _ (by decide)
  rw [driftMs, hdiv, Int.sub_self]

namespace Core

variable {m : Moment} {c : Core} {i : Incident} {s : Status}

/-- What is shown at the end of a turn is the status. -/
lemma eq_status_of_publish_mem_step (h : Effect.publish s ∈ (c.step m i).2) :
    s = (c.step m i).1.status := by
  have hs := eq_of_publish_mem_step m c h
  rw [step_eq] at h hs ⊢
  split at h
  next he => exact absurd h (publish_notMem_handle m c s i)
  next he =>
    rw [if_neg he] at hs ⊢
    exact hs

end Core

namespace Watchdog

variable {config : HeartbeatConfig} {workerHeld : Bool} {w : Watchdog} {h : Happening}
  {hs xs ys : List Happening} {m : Moment} {s : Status} {t : ℕ} {d : ℤ}

/-- What is shown is the status. -/
lemma eq_status_of_publish_mem_happen (h' : Effect.publish s ∈ (w.happen h).2) :
    s = (w.happen h).1.core.status := by
  cases h with
  | turn m i => exact Core.eq_status_of_publish_mem_step h'
  | bind i => simp [happen] at h'
  | finish m =>
    have hs := Core.eq_of_publish_mem_finish m w.core h'
    rw [Core.finish_fst] at hs
    show s = (w.core.finish m).1.status
    rw [Core.finish_fst]
    exact hs

/-- Only a tick finds a drift. -/
lemma foregroundDriftMs?_happen (ht : h.isTick = false) :
    (w.happen h).1.core.status.foregroundDriftMs? = w.core.status.foregroundDriftMs? := by
  cases h with
  | bind i => rfl
  | finish m =>
    show (w.core.finish m).1.status.foregroundDriftMs? = _
    rw [Core.finish_fst]
    rfl
  | turn m i =>
    have hi : i ≠ .due := by
      rintro rfl
      cases ht
    obtain ⟨c', hc', ho⟩ := Core.step_outcome m w.core i
    show (w.core.step m i).1.status.foregroundDriftMs? = _
    rw [hc', Core.foregroundDriftMs?_shown, ho.foregroundDriftMs? hi]

/-- A drift was found from two foreground ticks of a life, the one next to the other, between which
the network was there all the time. -/
def FoundForegroundDrift (w : Watchdog) (hs : List Happening) (d : ℤ) : Prop :=
  ∃ xs m₁ ys m₂ zs, hs = xs ++ .turn m₁ .due :: (ys ++ .turn m₂ .due :: zs) ∧
    ys.all (!·.isTick) ∧
    (∀ ps, ps <+: ys → (w.after (xs ++ .turn m₁ .due :: ps)).core.status.onLine = true) ∧
    d = driftMs (m₂.now - m₁.now)
      (w.after (xs ++ .turn m₁ .due :: ys)).core.status.intervalMs

lemma FoundForegroundDrift.concat (hd : w.FoundForegroundDrift hs d) (h : Happening) :
    w.FoundForegroundDrift (hs ++ [h]) d := by
  obtain ⟨xs, m₁, ys, m₂, zs, rfl, hrest⟩ := hd
  exact ⟨xs, m₁, ys, m₂, zs ++ [h], by simp, hrest⟩

/-- The next tick finds a drift from the one that is remembered. -/
lemma LastPing.foundForegroundDrift (ht : w.LastPing hs t) (m : Moment) :
    w.FoundForegroundDrift (hs ++ [.turn m .due])
      (driftMs (m.now - t) (w.after hs).core.status.intervalMs) := by
  obtain ⟨xs, m₁, ys, rfl, rfl, hys, hon⟩ := ht
  exact ⟨xs, m₁, ys, m, [], by simp, hys, hon, rfl⟩

lemma foundForegroundDrift (hv : config.Valid) (hl : (launch config workerHeld).lives hs)
    (hd : ((launch config workerHeld).after hs).core.status.foregroundDriftMs? = some d) :
    (launch config workerHeld).FoundForegroundDrift hs d := by
  -- induction on the life, the latest happening first
  induction hs using List.reverseRecOn with
  | nil => cases hd
  | append_singleton xs h ih =>
    obtain ⟨hlx, ha, -⟩ := lives_append_cons.mp hl
    rw [after_concat] at hd
    cases htick : h.isTick with
    | false =>
      rw [foregroundDriftMs?_happen htick] at hd
      exact (ih hlx hd).concat h
    | true =>
      obtain ⟨m, rfl⟩ := Happening.isTick_iff.mp htick
      have hp := (allows_turn_iff.mp ha).1
      obtain ⟨e, u, hu⟩ := tick_due_of_allows ha
      simp only [happen, Core.step_due hu, Core.beginPing_fst hu] at hd
      cases hlast : ((launch config workerHeld).after xs).core.lastForegroundPing? with
      | none =>
        -- there is nothing to compare the tick with
        simp only [hlast, Option.map_none, Option.none_or] at hd
        exact (ih hlx hd).concat _
      | some last =>
        simp only [hlast, Option.map_some, Option.some_or, Option.some.injEq] at hd
        exact hd ▸ (lastPing hv hlx hp hlast).foundForegroundDrift m

/-! ## Ticks in time -/

/-- A tick that is taken in time comes one interval after the instant from which the timer
counts. -/
lemma now_eq_of_inTime (hv : config.Valid)
    (hl : (launch config workerHeld).lives (hs ++ [.turn m .due]))
    (hin : (launch config workerHeld).inTime (hs ++ [.turn m .due])) :
    m.now = (launch config workerHeld).countsFrom 0 hs +
      ((launch config workerHeld).after hs).core.regime.interval := by
  obtain ⟨hlx, ha, -⟩ := lives_append_cons.mp hl
  have hon := ((consistent_launch hv workerHeld).after hv hlx).onLine_of_tick ha
  rw [inTime_append, Bool.and_eq_true] at hin
  obtain ⟨hinx, hint⟩ := hin
  obtain ⟨d, hd, -, heq⟩ := deadline?_after hv hlx (allows_turn_iff.mp ha).1 hon
  -- the tick is taken when it is due, and no later
  obtain ⟨e, u, hu⟩ := tick_due_of_allows ha
  obtain ⟨he, hle, -⟩ := Timer.tick?_eq_some_iff.mp hu
  have hge : m.now ≤ e := by
    have hdue : ((launch config workerHeld).after hs).onTime m.now = true := by
      simpa [inTime, Happening.isTick, Happening.instant?] using hint
    exact onTime_iff.mp hdue e he
  have hde : d = e := Option.some.inj (hd.symm.trans he)
  have hdue := heq hinx
  omega

/-- The timer counts from a tick, until it is set anew. -/
lemma countsFrom_tick (hs ys : List Happening) (m : Moment) :
    w.countsFrom 0 (hs ++ .turn m .due :: ys) =
      (w.after (hs ++ [.turn m .due])).countsFrom m.now ys := by
  rw [countsFrom_append, countsFrom, after_append]
  rfl

/-- When neither a tick is taken nor the regime changes, the timer is left alone. -/
lemma leavesTimer_of_regime (htick : hs.all (!·.isTick))
    (hr : ∀ ps, ps <+: hs → (w.after ps).core.regime = w.core.regime) : w.leavesTimer hs := by
  induction hs generalizing w with
  | nil => rfl
  | cons h hs ih =>
    rw [List.all_cons, Bool.and_eq_true, Bool.not_eq_true'] at htick
    have hh : (w.happen h).1.core.regime = w.core.regime :=
      hr [h] ((List.prefix_cons_inj h).mpr List.nil_prefix)
    have hrest : (w.happen h).1.leavesTimer hs = true := by
      refine ih htick.2 fun ps hps => ?_
      rw [hh]
      exact hr (h :: ps) ((List.prefix_cons_inj h).mpr hps)
    rw [leavesTimer, resets_eq_false_iff.mpr ⟨htick.1, hh⟩, hrest]
    rfl

/-- When no interval changes between two ticks, nothing sets the timer anew. -/
lemma countsFrom_of_intervalMs (htick : hs.all (!·.isTick))
    (hon : ∀ ps, ps <+: hs → (w.after ps).core.status.onLine = true)
    (hsame : ∀ ps, ps <+: hs →
      (w.after ps).core.status.intervalMs = (w.after hs).core.status.intervalMs) :
    w.countsFrom t hs = t := by
  refine countsFrom_of_leavesTimer (leavesTimer_of_regime htick fun ps hps => ?_)
  have hinterval := (hsame ps hps).trans (hsame [] List.nil_prefix).symm
  exact congrArg₂ Regime.mk ((hon ps hps).trans (hon [] List.nil_prefix).symm) hinterval

/-- The time between two ticks that are taken in time, the one next to the other. -/
lemma ticks_apart {m₁ m₂ : Moment} (hv : config.Valid)
    (hl : (launch config workerHeld).lives (xs ++ .turn m₁ .due :: ys ++ [.turn m₂ .due]))
    (hin : (launch config workerHeld).inTime (xs ++ .turn m₁ .due :: ys ++ [.turn m₂ .due]))
    (hord : (Happening.instants (xs ++ .turn m₁ .due :: ys)).Pairwise (· ≤ ·)) :
    let v := (launch config workerHeld).after (xs ++ [.turn m₁ .due])
    m₁.now ≤ v.countsFrom m₁.now ys ∧
      m₂.now = v.countsFrom m₁.now ys + millis (v.after ys).core.status.intervalMs.toNat := by
  intro v
  have hafter : (launch config workerHeld).after (xs ++ .turn m₁ .due :: ys) = v.after ys := by
    rw [List.append_cons, after_append]
  refine ⟨le_countsFrom (Nat.le_refl _) fun u hu => ?_, ?_⟩
  · exact Happening.le_of_mem_instants hord rfl hu
  · have hnow := now_eq_of_inTime hv hl hin
    rw [countsFrom_tick xs ys m₁, hafter] at hnow
    exact hnow

/-- **Drift without delay comes from changes of the interval.**  Take any life that starts with a
valid configuration, at instants that do not run backwards, in which every tick is taken in time.
Any drift that is shown was found from two ticks, the one next to the other, between which the
network was there all the time.  The second tick comes one interval after the last change of the
interval between them, or after the first tick if there was none.  Therefore the drift is the time
from the first tick to that change; it is not negative, and it is zero if the interval stayed. -/
theorem drift_of_ticks_in_time (valid : config.validate = .ok ())
    (lives : (launch config workerHeld).lives hs)
    (ordered : (Happening.instants hs).Pairwise (· ≤ ·))
    (inTime : (launch config workerHeld).inTime hs) :
    let w := launch config workerHeld
    ∀ xs h zs s d, hs = xs ++ h :: zs → Effect.publish s ∈ ((w.after xs).happen h).2 →
      s.foregroundDriftMs? = some d →
      ∃ as m₁ ys m₂ bs, xs ++ [h] = as ++ .turn m₁ .due :: (ys ++ .turn m₂ .due :: bs) ∧
        ys.all (!·.isTick) ∧
        (∀ ps, ps <+: ys → (w.after (as ++ .turn m₁ .due :: ps)).core.status.onLine = true) ∧
        let v := w.after (as ++ [.turn m₁ .due])
        let since := v.countsFrom m₁.now ys
        let intervalMs := (v.after ys).core.status.intervalMs
        m₁.now ≤ since ∧ m₂.now = since + millis intervalMs.toNat ∧
          d = driftMs (since - m₁.now + millis intervalMs.toNat) intervalMs ∧ 0 ≤ d ∧
          ((∀ ps, ps <+: ys → (v.after ps).core.status.intervalMs = intervalMs) →
            since = m₁.now ∧ d = 0) := by
  intro w xs h zs s d hsplit hshown hdrift
  have hv := HeartbeatConfig.valid_of_validate valid
  rw [List.append_cons] at hsplit
  subst hsplit
  have hl := (lives_append.mp lives).1
  have hin : w.inTime (xs ++ [h]) = true :=
    (Bool.and_eq_true_iff.mp (inTime_append.symm.trans inTime)).1
  have hord : (Happening.instants (xs ++ [h])).Pairwise (· ≤ ·) := by
    rw [Happening.instants_append (xs ++ [h])] at ordered
    exact (List.pairwise_append.mp ordered).1
  -- the two ticks from which the drift was found
  rw [eq_status_of_publish_mem_happen hshown] at hdrift
  have hfound : w.FoundForegroundDrift (xs ++ [h]) d := by
    refine foundForegroundDrift hv hl ?_
    rw [after_append]
    exact hdrift
  obtain ⟨as, m₁, ys, m₂, bs, heq, hys, hon, hd⟩ := hfound
  refine ⟨as, m₁, ys, m₂, bs, heq, hys, hon, ?_⟩
  intro v since intervalMs
  -- the life up to the second of them
  have hassoc : xs ++ [h] = (as ++ .turn m₁ .due :: ys ++ [.turn m₂ .due]) ++ bs := by
    rw [heq]
    simp
  rw [hassoc] at hl hin hord
  have hl₂ := (lives_append.mp hl).1
  have hin₂ := (Bool.and_eq_true_iff.mp (inTime_append.symm.trans hin)).1
  rw [List.append_assoc, Happening.instants_append] at hord
  have hticks : m₁.now ≤ since ∧ m₂.now = since + millis intervalMs.toNat :=
    ticks_apart hv hl₂ hin₂ (List.pairwise_append.mp hord).1
  obtain ⟨hfirst, hsecond⟩ := hticks
  have hdrift : d = driftMs (since - m₁.now + millis intervalMs.toNat) intervalMs := by
    have hgap : m₂.now - m₁.now = since - m₁.now + millis intervalMs.toNat := by omega
    rw [hd, hgap, List.append_cons, after_append]
  refine ⟨hfirst, hsecond, hdrift, hdrift ▸ driftMs_add_nonneg _ _, fun hsame => ?_⟩
  have hsince : since = m₁.now := by
    refine countsFrom_of_intervalMs hys (fun ps hps => ?_) hsame
    rw [← after_append, ← List.append_cons]
    exact hon ps hps
  refine ⟨hsince, ?_⟩
  rw [hdrift, hsince, Nat.sub_self, Nat.zero_add, driftMs_interval]

/-- Half a second after the first heartbeat a longer interval is set; the second heartbeat is sent
when it is due. -/
def drifting : List Happening :=
  lengthened ++ [.turn ⟨millis 7500, .epoch, true⟩ .due,
    .turn ⟨millis 7500, .epoch, true⟩ (.emitted (.ok ()))]

theorem drift_of_lengthened_interval :
    HeartbeatConfig.validate {} = .ok () ∧ (launch {} true).lives drifting = true ∧
      (Happening.instants drifting).Pairwise (· ≤ ·) ∧ (launch {} true).inTime drifting = true ∧
      ∃ s, Effect.publish s ∈ (((launch {} true).after (drifting.take 5)).happen
          (.turn ⟨millis 7500, .epoch, true⟩ (.emitted (.ok ())))).2 ∧
        s.foregroundDriftMs? = some 500 ∧
        ∃ (m₁ m₂ : Moment) (since : ℕ) (n : UInt64), m₁.now ≤ since ∧
          m₂.now = since + millis n.toNat ∧ 500 = driftMs (since - m₁.now + millis n.toNat) n := by
  have hl : (launch {} true).lives drifting = true := by decide
  have hord : (Happening.instants drifting).Pairwise (· ≤ ·) := by decide
  have hin : (launch {} true).inTime drifting = true := by decide
  let s := (((launch {} true).after (drifting.take 5)).happen
    (.turn ⟨millis 7500, .epoch, true⟩ (.emitted (.ok ())))).1.core.status
  have hs : Effect.publish s ∈ (((launch {} true).after (drifting.take 5)).happen
      (.turn ⟨millis 7500, .epoch, true⟩ (.emitted (.ok ())))).2 := .head _
  have hd : s.foregroundDriftMs? = some 500 := by decide
  obtain ⟨as, m₁, ys, m₂, bs, -, -, -, hle, hnow, hdrift, -⟩ :=
    drift_of_ticks_in_time (by rfl) hl hord hin
      (drifting.take 5) _ [] s 500 rfl hs hd
  exact ⟨rfl, hl, hord, hin, s, hs, hd, m₁, m₂, _, _, hle, hnow, hdrift⟩

/-- **Drift without delay.**  In this life no tick is late: each of the two is taken just when it is
due, and no deadline passes.  The interval was set anew half a second after the first of them, and
this half second is shown as drift. -/
theorem drift_without_delay :
    HeartbeatConfig.validate {} = .ok () ∧
      let w := launch {} true
      w.lives drifting = true ∧ (Happening.instants drifting).Pairwise (· ≤ ·) ∧
        w.inTime drifting = true ∧ w.punctual (millis 8000) drifting = true ∧
        (w.after drifting).core.published.foregroundDriftMs? = some 500 := by
  exact ⟨rfl, by decide, by decide, by decide, by decide, by decide⟩

end Watchdog

end LinkWatch
