/-
# A timer that is never late

A timer whose ticks are taken within a millisecond after they are due has one tick at most to be
taken at any instant.  So it stays with the foreground timer, whatever the event loop does
(`Watchdog.timely_happen`).

As long as no heartbeat is refused, the heartbeats that were sent and the one that is under way are
those of the segments that are over and of the open segment of the schedule (`Watchdog.Counts`).
-/
import LinkWatch.Proofs.Watchdog.Accounting
import LinkWatch.Proofs.Watchdog.Schedule

namespace LinkWatch

/-! ## Deadlines in whole milliseconds -/

namespace Timer

variable {now d : ℕ} {t u : Timer}

/-- No tick is due. -/
def Ahead (now : ℕ) (t : Timer) : Prop := ∀ d, t.deadline? = some d → now < d

/-- No tick has been due for a millisecond or longer. -/
def Timely (now : ℕ) (t : Timer) : Prop := ∀ d, t.deadline? = some d → now < d + nanosPerMilli

lemma Ahead.timely (h : t.Ahead now) : t.Timely now := fun d hd => Nat.lt_add_right _ (h d hd)

lemma tick?_eq_none_iff : t.tick? now = none ↔ t.Ahead now := by
  rw [tick?, Ahead]
  split
  next d hd => simp [hd]
  next hd => simp [hd]

/-- The number of ticks that are due: one or none. -/
def due (now : ℕ) (t : Timer) : ℕ := (t.tick? now).isSome.toNat

lemma due_le_one (t : Timer) (now : ℕ) : t.due now ≤ 1 := Bool.toNat_le _

lemma Ahead.due_eq_zero (h : t.Ahead now) : t.due now = 0 := by
  rw [due, tick?_eq_none_iff.mpr h]
  rfl

lemma due_eq_one (h : (t.tick? now).isSome) : t.due now = 1 := by
  rw [due, h]
  rfl

/-- A tick that is taken in time is the only one that is due. -/
lemma Timely.tick (h : t.Timely now) (ht : t.tick? now = some (d, u)) : u.Ahead now := by
  obtain ⟨hd, -, rfl⟩ := tick?_eq_some_iff.mp ht
  intro e he
  obtain rfl := Option.some.inj he
  have hnow := h d hd
  have hperiod := t.one_milli_le
  have hnext := deadline_add_period_le now d t.period
  omega

/-- A timer is served less than a millisecond after its deadline. -/
lemma wakeUp_lt (d : ℕ) : wakeUp d < d + nanosPerMilli := by
  rw [wakeUp, nanosPerMilli]
  omega

end Timer

/-- The background clock has nothing to do just after a command. -/
lemma Clock.ahead_obey (now : ℕ) (c : Clock) (k : ClockCommand) :
    (c.obey now k).timer.Ahead now := by
  intro d hd
  cases k with
  | stop => cases hd
  | start n =>
    obtain rfl := Option.some.inj hd
    have hperiod := (c.timer.setPeriod now (millis n.toNat)).one_milli_le
    rw [nanosPerMilli] at hperiod
    show now < now + (c.timer.setPeriod now (millis n.toNat)).period
    omega

namespace Watchdog

variable {config : HeartbeatConfig} {w : Watchdog} {m : Moment} {i : Incident} {since? : Option ℕ}
  {now before : ℕ}

/-! ## The foreground timer in a turn -/

/-- Once a tick is taken in time, none is due. -/
lemma ahead_happen_due (ha : w.allows (.turn m .due)) (h : w.core.timer.Timely m.now) :
    (w.happen (.turn m .due)).1.core.timer.Ahead m.now := by
  obtain ⟨d, u, hu⟩ := tick_due_of_allows ha
  show (w.core.step m .due).1.timer.Ahead m.now
  rw [Core.step_due hu, Core.beginPing_fst hu]
  exact h.tick hu

/-- A change of the regime leaves no tick that is due. -/
lemma ahead_happen_of_ne (hv : config.Valid) (hc : w.core.Consistent config)
    (hne : w.core.regime.after w.core.config i ≠ w.core.regime) :
    (w.happen (.turn m i)).1.core.timer.Ahead m.now := by
  have hi : i ≠ .due := by
    rintro rfl
    exact hne rfl
  have hbound := (hc.step hv m i).bounded.nanosPerMilli_le hv
  rw [Core.regime_step] at hbound
  show (w.core.step m i).1.timer.Ahead m.now
  rw [Core.timer_step m w.core hi]
  intro d hd
  rw [hc.follows.deadline?_retime m.now hbound hne] at hd
  rw [nanosPerMilli] at hbound
  split at hd
  · obtain rfl := Option.some.inj hd
    omega
  · cases hd

lemma timer_happen_of_kept (hi : i ≠ .due)
    (hkept : w.core.regime.after w.core.config i = w.core.regime) :
    (w.happen (.turn m i)).1.core.timer = w.core.timer := by
  have htimer := Core.timer_step m w.core hi
  rwa [hkept, Regime.retime_self] at htimer

/-- In no turn the timer falls behind. -/
lemma timely_happen (hv : config.Valid) (hc : w.core.Consistent config)
    (ha : w.allows (.turn m i)) (h : w.core.timer.Timely m.now) :
    (w.happen (.turn m i)).1.core.timer.Timely m.now := by
  by_cases hi : i = .due
  · subst hi
    exact (ahead_happen_due ha h).timely
  · by_cases hkept : w.core.regime.after w.core.config i = w.core.regime
    · rwa [timer_happen_of_kept hi hkept]
    · exact (ahead_happen_of_ne hv hc hkept).timely

/-! ## Counting heartbeats -/

/-- How a running loop stands after the instant `now`, with no heartbeat refused and no directive
malformed: how many heartbeats there were before the open segment, and those of the segment. -/
structure Counts (w : Watchdog) (now : ℕ) (since? : Option ℕ) (before : ℕ) : Prop where
  standing : ∃ past, w.Standing now since? past ∧
    w.core.status.heartbeatsSent + w.core.emitting.toNat = before + past.length
  emitFailures : w.core.status.emitFailures = 0
  rejectedDirectives : w.core.status.rejectedDirectives = 0

/-- A turn that leaves the regime as it is adds to the open segment the heartbeat that it begins, if
it begins one. -/
lemma Counts.turn (h : w.Counts now since? before) (hc : w.core.Consistent config)
    (ha : w.allows (.turn m i)) (hkept : w.core.regime.after w.core.config i = w.core.regime)
    (hrefused : (Happening.turn m i).isRefused = false) (hrejected : i.rejections = 0)
    (hle : now ≤ m.now) (htime : i = .due → w.onTime m.now) :
    (w.happen (.turn m i)).1.Counts m.now since? before := by
  obtain ⟨past, hst, hcount⟩ := h.standing
  have htally := tallied_happen ha
  have hemits := emitting_happen ha
  refine ⟨?_, ?_, ?_⟩
  · by_cases hi : i = .due
    · subst hi
      refine ⟨past ++ [m.now], hst.tick hc.follows.period ha (htime rfl), ?_⟩
      have hsent : _ = w.core.status.heartbeatsSent + 0 := htally.heartbeatsSent
      change 1 + _ = 0 + 0 + _ at hemits
      rw [hsent, List.length_append, List.length_singleton]
      omega
    · have hregime : (w.happen (.turn m i)).1.core.regime = w.core.regime :=
        (regime_happen w (.turn m i)).trans hkept
      have htimer := timer_happen_of_kept (m := m) hi hkept
      refine ⟨past, hst.of_eq hregime (congrArg Timer.deadline? htimer) hle, ?_⟩
      rw [Happening.isTick_turn hi, hrefused] at hemits
      rw [htally.heartbeatsSent]
      simp only [Bool.toNat_false] at hemits
      omega
  · rw [htally.emitFailures, h.emitFailures, hrefused]
    rfl
  · rw [htally.rejectedDirectives, h.rejectedDirectives, Nat.zero_add]
    exact hrejected

/-- A change of the regime begins a segment, if the network is there. -/
lemma Counts.change (h : w.Counts now since? before) (hc : w.core.Consistent config)
    (hv : config.Valid) (hidle : w.core.emitting = false) (ha : w.allows (.turn m i))
    (hne : w.core.regime.after w.core.config i ≠ w.core.regime) (hrejected : i.rejections = 0) :
    (w.happen (.turn m i)).1.Counts m.now (opened (w.core.regime.after w.core.config i) m.now)
      w.core.status.heartbeatsSent := by
  have hi : i ≠ .due := by
    rintro rfl
    exact hne rfl
  have htally := tallied_happen ha
  have hemits := emitting_happen ha
  rw [Happening.isTick_turn hi, hidle, Bool.toNat_false] at hemits
  refine ⟨⟨[], standing_of_ne hv hc hne, ?_⟩, ?_, ?_⟩
  · rw [htally.heartbeatsSent, List.length_nil]
    omega
  · rw [htally.emitFailures, h.emitFailures]
    omega
  · rw [htally.rejectedDirectives, h.rejectedDirectives, Nat.zero_add]
    exact hrejected

end Watchdog

end LinkWatch
