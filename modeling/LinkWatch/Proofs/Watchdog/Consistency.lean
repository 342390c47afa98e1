/-
# What the event loop keeps in agreement

Each way to deal with an incident touches only some of what the loop owns: the status, the
foreground timer, the link, the indicators, the instants of the last ticks, and the snapshot that
others see.  `Core.Consistent` says how these agree, and every turn keeps it.  The main result,
`Watchdog.agreement_while_running`, reads it off for every life: after each iteration of the loop
the timer runs just while the network is there, at the interval in force and within the bounds,
the last foreground tick belongs to the present time online, and the indicators and the snapshot
show what the core knows.  So a heartbeat is sent only online, after a first signal that the
network is there, and before the loop ends.
-/
import LinkWatch.Proofs.Watchdog.Life
import Mathlib.Data.List.Induction

namespace LinkWatch

namespace Core

/-- How the parts of the event loop agree. -/
structure Consistent (config : HeartbeatConfig) (c : Core) : Prop where
  config_eq : c.config = config
  follows : c.timer.Follows c.regime
  bounded : c.regime.Bounded config
  indicators : c.indicators.online = c.regime.onLine
  /-- A foreground tick is remembered only while the network is there. -/
  pinged : c.lastForegroundPing?.isSome → c.regime.onLine = true
  /-- The snapshot is up to date, unless a heartbeat is under way. -/
  published : c.emitting = false → c.published = c.snapshot

variable {config : HeartbeatConfig} {m : Moment} {c c' : Core} {i : Incident} {acts : List Effect}

lemma consistent_new (h : config.Valid) (workerHeld : Bool) :
    (new config workerHeld).Consistent config where
  config_eq := rfl
  follows := ⟨rfl, Nat.max_eq_left (nanosPerMilli_le_millis (h.first.one_le h))⟩
  bounded := h.first
  indicators := rfl
  pinged := by simp [new]
  published _ := rfl

/-! ## Single outcomes -/

lemma indicators_adopt (m : Moment) (r : Regime) (hc : c.indicators.online = c.regime.onLine) :
    (c.adopt m r).indicators.online = r.onLine := by
  have he : (c.adopt m r).indicators.online =
      if r.onLine = c.status.onLine then c.indicators.online else r.onLine := rfl
  rw [he]
  split
  next heq => rw [hc, heq]; rfl
  next => rfl

namespace Outcome

/-- The timer goes on following the regime. -/
lemma follows (h : Outcome m c i c' acts) (hf : c.timer.Follows c.regime)
    (hi : nanosPerMilli ≤ (c.regime.after c.config i).interval) : c'.timer.Follows c'.regime := by
  by_cases hd : i = .due
  · subst hd
    rw [h.regime]
    cases h with
    | kept => exact hf
    | changed hne => exact absurd rfl hne
    | @begun d t ht =>
      -- a timer that has ticked goes on running at its period
      obtain ⟨hdl, -, rfl⟩ := Timer.tick?_eq_some_iff.mp ht
      rw [beginPing_fst ht]
      exact ⟨hf.isRunning ▸ by simp [Timer.isRunning, hdl], hf.period⟩
  · rw [h.timer hd, h.regime]
    exact hf.retime _ hi

/-- The indicators are told of every change of the network. -/
lemma indicators (h : Outcome m c i c' acts) (hc : c.indicators.online = c.regime.onLine) :
    c'.indicators.online = c'.regime.onLine := by
  cases h with
  | changed hne => exact indicators_adopt m _ hc
  | begun ht =>
    rw [beginPing_fst ht]
    exact hc
  | answered result => cases result <;> exact hc
  | _ => exact hc

/-- Apart from a tick that is taken, a remembered tick was remembered before. -/
lemma lastForegroundPing? (h : Outcome m c i c' acts) (hi : i ≠ .due) {t : ℕ}
    (ht : c'.lastForegroundPing? = some t) : c.lastForegroundPing? = some t := by
  cases h with
  | changed hne =>
    simp only [adopt] at ht
    split at ht
    · cases ht
    · exact ht
  | begun => exact absurd rfl hi
  | answered result => cases result <;> exact ht
  | _ => exact ht

/-- A tick is remembered only while the network is there. -/
lemma pinged (h : Outcome m c i c' acts) (hf : c.timer.Follows c.regime)
    (hc : c.lastForegroundPing?.isSome → c.regime.onLine = true)
    (hp : c'.lastForegroundPing?.isSome) : c'.regime.onLine = true := by
  rw [h.regime]
  cases h with
  | kept hr =>
    rw [hr]
    exact hc hp
  | changed hne =>
    simp only [adopt] at hp
    split at hp
    · cases hp
    next hleft =>
      have hon := hc hp
      simpa [show c.status.onLine = true from hon] using hleft
  | rejected hr =>
    rw [Regime.after_of_other _ _ hr (by simp)]
    exact hc hp
  | @begun d t ht =>
    obtain ⟨hdl, -⟩ := Timer.tick?_eq_some_iff.mp ht
    exact hf.isRunning ▸ Timer.isRunning_eq_true_iff.mpr ⟨d, hdl⟩
  | answered result => cases result <;> exact hc hp
  | _ => exact hc hp

end Outcome

lemma published_shown (c : Core) (h : c.shown.emitting = false) :
    c.shown.published = c.shown.snapshot := by
  rw [emitting_shown] at h
  rw [shown, if_neg (by simp [h])]
  rfl

/-! ## Turns -/

/-- A turn keeps the parts of the event loop in agreement. -/
lemma Consistent.step (h : c.Consistent config) (hv : config.Valid) (m : Moment) (i : Incident) :
    (c.step m i).1.Consistent config := by
  obtain ⟨c', hc', ho⟩ := step_outcome m c i
  have hb : (c.regime.after c.config i).Bounded config :=
    h.config_eq ▸ (h.config_eq.symm ▸ h.bounded : c.regime.Bounded c.config).after
      (h.config_eq.symm ▸ hv) i
  rw [hc']
  refine ⟨?_, ?_, ?_, ?_, ?_, c'.published_shown⟩
  · rw [config_shown, ho.config, h.config_eq]
  · rw [timer_shown, regime_shown]
    exact ho.follows h.follows (hb.nanosPerMilli_le hv)
  · rw [regime_shown, ho.regime]
    exact hb
  · rw [indicators_shown, regime_shown]
    exact ho.indicators h.indicators
  · rw [lastForegroundPing?_shown, regime_shown]
    exact ho.pinged h.follows h.pinged

end Core

namespace Watchdog

variable {config : HeartbeatConfig} {workerHeld : Bool} {w : Watchdog} {h : Happening}
  {hs xs ys : List Happening}

/-! ## Lives -/

/-- As long as the event loop runs, its parts agree. -/
def Consistent (config : HeartbeatConfig) (w : Watchdog) : Prop :=
  w.phase = .running → w.core.Consistent config

lemma consistent_launch (hv : config.Valid) (workerHeld : Bool) :
    (launch config workerHeld).Consistent config :=
  fun _ => Core.consistent_new hv workerHeld

lemma Consistent.happen (hc : w.Consistent config) (hv : config.Valid) (ha : w.allows h) :
    (w.happen h).1.Consistent config := by
  intro hp
  cases h with
  | turn m i => exact (hc (allows_turn_iff.mp ha).1).step hv m i
  | bind i =>
    have hw := hc hp
    exact ⟨hw.config_eq, hw.follows, hw.bounded, hw.indicators, hw.pinged, hw.published⟩
  | finish m => cases hp

lemma Consistent.after (hc : w.Consistent config) (hv : config.Valid) (hl : w.lives hs) :
    (w.after hs).Consistent config :=
  after_induction (P := Consistent config) (fun _ _ hc ha => hc.happen hv ha) hc hl

/-! ## Foreground ticks of the present time online -/

/-- A tick was taken at the instant `t` of a life, and a heartbeat handed to the channel, and the
network has been there ever since. -/
def PingedSince (w : Watchdog) (hs : List Happening) (t : ℕ) : Prop :=
  ∃ xs m ys, hs = xs ++ .turn m .due :: ys ∧ m.now = t ∧
    Effect.emit ∈ ((w.after xs).happen (.turn m .due)).2 ∧
    ∀ zs, zs <+: .turn m .due :: ys → (w.after (xs ++ zs)).core.status.onLine = true

/-- The last foreground tick of a life was taken at the instant `t`, and the network has been there
ever since. -/
def LastPing (w : Watchdog) (hs : List Happening) (t : ℕ) : Prop :=
  ∃ xs m ys, hs = xs ++ .turn m .due :: ys ∧ m.now = t ∧ ys.all (!·.isTick) ∧
    ∀ zs, zs <+: ys → (w.after (xs ++ .turn m .due :: zs)).core.status.onLine = true

/-- It is still the last one when something else happened and the network stayed. -/
lemma LastPing.concat {t : ℕ} (hp : w.LastPing hs t) (htick : h.isTick = false)
    (hon : (w.after (hs ++ [h])).core.status.onLine = true) : w.LastPing (hs ++ [h]) t := by
  obtain ⟨xs, m, ys, rfl, ht, hys, hall⟩ := hp
  refine ⟨xs, m, ys ++ [h], by simp, ht, by simp [hys, htick], fun zs hzs => ?_⟩
  rw [List.prefix_concat_iff] at hzs
  rcases hzs with rfl | hzs
  · simpa using hon
  · exact hall zs hzs

/-- A foreground tick is taken only while the network is there. -/
lemma Consistent.onLine_of_tick {m : Moment} (hc : w.Consistent config)
    (ha : w.allows (.turn m .due)) : w.core.status.onLine = true := by
  obtain ⟨d, t, ht⟩ := tick_due_of_allows ha
  obtain ⟨hd, -⟩ := Timer.tick?_eq_some_iff.mp ht
  have hf := (hc (allows_turn_iff.mp ha).1).follows
  exact hf.isRunning.symm.trans (Timer.isRunning_eq_true_iff.mpr ⟨d, hd⟩)

/-- The tick that is remembered is the last one, and the network has been there ever since. -/
lemma lastPing (hv : config.Valid) (hl : (launch config workerHeld).lives hs)
    (hp : ((launch config workerHeld).after hs).phase = .running) {t : ℕ}
    (ht : ((launch config workerHeld).after hs).core.lastForegroundPing? = some t) :
    (launch config workerHeld).LastPing hs t := by
  -- induction on the life, the latest happening first
  induction hs using List.reverseRecOn with
  | nil => cases ht
  | append_singleton xs h ih =>
    have hc := (consistent_launch hv workerHeld).after hv hl
    have hon : ((launch config workerHeld).after (xs ++ [h])).core.status.onLine = true :=
      (hc hp).pinged (by rw [ht]; rfl)
    obtain ⟨hlx, ha, -⟩ := lives_append_cons.mp hl
    rw [after_concat] at hp ht
    cases h with
    | finish m => cases hp
    | bind i => exact (ih hlx hp ht).concat rfl hon
    | turn m i =>
      have hpx := (allows_turn_iff.mp ha).1
      by_cases hi : i = .due
      · -- the tick that is remembered was taken just now
        subst hi
        obtain ⟨d, u, hu⟩ := tick_due_of_allows ha
        simp only [Watchdog.happen, Core.step_due hu, Core.beginPing_fst hu] at ht
        refine ⟨xs, m, [], rfl, Option.some.inj ht, rfl, fun zs hzs => ?_⟩
        rw [List.prefix_nil.mp hzs]
        exact hon
      · obtain ⟨c', hc', ho⟩ := Core.step_outcome m ((launch config workerHeld).after xs).core i
        simp only [Watchdog.happen, hc', Core.lastForegroundPing?_shown] at ht
        have hlast := ih hlx hpx (ho.lastForegroundPing? hi ht)
        exact hlast.concat (Happening.isTick_turn hi) hon

/-- The tick that is remembered belongs to the present time online. -/
lemma pingedSince (hv : config.Valid) (hl : (launch config workerHeld).lives hs)
    (hp : ((launch config workerHeld).after hs).phase = .running) {t : ℕ}
    (ht : ((launch config workerHeld).after hs).core.lastForegroundPing? = some t) :
    (launch config workerHeld).PingedSince hs t := by
  obtain ⟨xs, m, ys, rfl, hm, -, hall⟩ := lastPing hv hl hp ht
  obtain ⟨hlx, ha, -⟩ := lives_append_cons.mp hl
  refine ⟨xs, m, ys, rfl, hm, (emit_mem_happen_iff ha).mpr rfl, fun zs hzs => ?_⟩
  rcases List.prefix_cons_iff.mp hzs with rfl | ⟨ps, rfl, hps⟩
  · rw [List.append_nil]
    exact ((consistent_launch hv workerHeld).after hv hlx).onLine_of_tick ha
  · exact hall ps hps

/-- The network comes only with a signal that says so. -/
lemma exists_signal_of_onLine (hoff : w.core.regime.onLine = false)
    (hon : (w.after hs).core.regime.onLine = true) :
    ∃ m, Happening.turn m (.signal true) ∈ hs := by
  induction hs generalizing w with
  | nil => simp_all
  | cons h hs ih =>
    by_cases hnext : (w.happen h).1.core.regime.onLine = false
    · obtain ⟨m, hm⟩ := ih hnext hon
      exact ⟨m, List.mem_cons_of_mem _ hm⟩
    · rw [regime_happen] at hnext
      cases h with
      | bind i => exact absurd hoff hnext
      | finish m => exact absurd hoff hnext
      | turn m i =>
        have hafter : (w.core.regime.after w.core.config i).onLine ≠ false := hnext
        cases i.kind with
        | signal online =>
          cases online with
          | true => exact ⟨m, List.mem_cons_self⟩
          | false => exact absurd rfl hafter
        | request hn =>
          rw [Regime.after_of_requestedMs? _ _ hn] at hafter
          exact absurd hoff hafter
        | other hn hs' =>
          rw [Regime.after_of_other _ _ hn hs'] at hafter
          exact absurd hoff hafter

/-- **While the event loop runs, its parts agree, and it sends heartbeats only online.**  After
each iteration of any life that starts with a valid configuration

* the foreground timer runs just while the network is there, with the interval in force as its
  period, and that interval lies within the bounds;
* the last foreground tick is remembered only online, and it was taken, and a heartbeat handed to
  the channel, in the present time online;
* the indicators were last told whether the network is there, and the snapshot that others see is
  the status of the core, with the timer running just while the network is there and a background
  clock just while the link to it is held.

Whenever a heartbeat is handed to the channel, the loop has not ended, the network is there, and a
signal has said so before. -/
theorem agreement_while_running (valid : config.validate = .ok ())
    (lives : (launch config workerHeld).lives hs) :
    let w := (launch config workerHeld).after hs
    (w.phase = .running → w.core.emitting = false →
      w.core.timer.isRunning = w.core.status.onLine ∧
      w.core.timer.period = millis w.core.status.intervalMs.toNat ∧
      config.minIntervalMs ≤ w.core.status.intervalMs ∧
      w.core.status.intervalMs ≤ config.maxIntervalMs ∧
      (∀ t, w.core.lastForegroundPing? = some t →
        w.core.status.onLine = true ∧ (launch config workerHeld).PingedSince hs t) ∧
      w.core.indicators.online = w.core.status.onLine ∧
      w.core.published = { w.core.status with
        foregroundRunning := w.core.status.onLine
        workerAvailable := w.core.workerHeld }) ∧
    ∀ xs h ys, hs = xs ++ h :: ys →
      Effect.emit ∈ (((launch config workerHeld).after xs).happen h).2 →
      ((launch config workerHeld).after xs).phase = .running ∧
      ((launch config workerHeld).after xs).core.status.onLine = true ∧
      ∃ m, Happening.turn m (.signal true) ∈ xs := by
  have hv := HeartbeatConfig.valid_of_validate valid
  have hlaunch := consistent_launch hv workerHeld
  refine ⟨fun hrun hidle => ?_, ?_⟩
  · have hc := hlaunch.after hv lives hrun
    refine ⟨hc.follows.isRunning, hc.follows.period, hc.bounded.1, hc.bounded.2, fun t ht => ?_,
      hc.indicators, ?_⟩
    · exact ⟨hc.pinged (by rw [ht]; rfl), pingedSince hv lives hrun ht⟩
    · rw [hc.published hidle, Core.snapshot, hc.follows.isRunning]
      rfl
  · rintro xs h ys rfl he
    obtain ⟨hlx, ha, -⟩ := lives_append_cons.mp lives
    obtain ⟨m, rfl⟩ := Happening.isTick_iff.mp ((emit_mem_happen_iff ha).mp he)
    have hon := (hlaunch.after hv hlx).onLine_of_tick ha
    exact ⟨(allows_turn_iff.mp ha).1, hon, exists_signal_of_onLine rfl hon⟩

/-- The network comes, and one interval later a heartbeat is sent and taken. -/
def firstHeartbeat : List Happening :=
  [.turn ⟨0, .epoch, true⟩ (.signal true),
    .turn ⟨millis 2000, .epoch, true⟩ .due,
    .turn ⟨millis 2000, .epoch, true⟩ (.emitted (.ok ()))]

theorem agreement_after_first_heartbeat :
    HeartbeatConfig.validate {} = .ok () ∧
      (launch {} true).lives firstHeartbeat = true ∧
      ((launch {} true).after firstHeartbeat).core.lastForegroundPing? = some (millis 2000) ∧
      (launch {} true).PingedSince firstHeartbeat (millis 2000) := by
  have hl : (launch {} true).lives firstHeartbeat = true := by decide
  obtain ⟨hagree, -⟩ := agreement_while_running rfl hl
  exact ⟨rfl, hl, rfl, ((hagree rfl rfl).2.2.2.2.1 _ rfl).2⟩

end Watchdog

end LinkWatch
