/-
# The next tick

Two things set the foreground timer anew: a tick that is taken, and a change of the regime.  In
between the timer is left alone.  So there is an instant from which it counts
(`Watchdog.countsFrom`), and while the network is there the next tick comes one interval after that
instant at the latest, and just then if every tick is taken in time (`Watchdog.deadline?_after`).

Since no interval exceeds the upper bound of the configuration, the time between two heartbeats is
bounded as long as the interval is left alone (`Watchdog.next_tick_within_max`).  It is not bounded
otherwise: every change of the interval puts the next tick off, and requests that go on changing it
put the heartbeat off for as long as they like (`Watchdog.silent_while_wavering`).
-/
import LinkWatch.Proofs.Watchdog.Adoption
import LinkWatch.Proofs.Watchdog.Commands
import LinkWatch.Proofs.Watchdog.Schedule
import Mathlib.Data.List.Infix

namespace LinkWatch

namespace Watchdog

variable {config : HeartbeatConfig} {workerHeld : Bool} {w : Watchdog} {h : Happening}
  {hs xs ys : List Happening} {m : Moment} {t u e : ℕ}

/-! ## What sets the timer anew -/

/-- Whether the timer is set anew: a tick is taken, or the regime changes. -/
def resets (w : Watchdog) (h : Happening) : Bool :=
  h.isTick || decide ((w.happen h).1.core.regime ≠ w.core.regime)

/-- The instant from which the timer counts in the end: the last one at which it was set anew, or
`t` if it was left alone. -/
def countsFrom (w : Watchdog) (t : ℕ) : List Happening → ℕ
  | [] => t
  | h :: hs => (w.happen h).1.countsFrom (if w.resets h then h.instant?.getD t else t) hs

/-- Whether the timer is left alone. -/
def leavesTimer (w : Watchdog) : List Happening → Bool
  | [] => true
  | h :: hs => !w.resets h && (w.happen h).1.leavesTimer hs

/-- Whether every tick is taken at the instant at which it is due. -/
def inTime (w : Watchdog) : List Happening → Bool
  | [] => true
  | h :: hs => (!h.isTick || h.instant?.all w.onTime) && (w.happen h).1.inTime hs

lemma resets_eq_false_iff :
    w.resets h = false ↔ h.isTick = false ∧ (w.happen h).1.core.regime = w.core.regime := by
  simp [resets]

lemma countsFrom_append (w : Watchdog) (t : ℕ) (xs ys : List Happening) :
    w.countsFrom t (xs ++ ys) = (w.after xs).countsFrom (w.countsFrom t xs) ys := by
  induction xs generalizing w t with
  | nil => rfl
  | cons h xs ih => rw [List.cons_append, countsFrom, ih, countsFrom, after_cons]

lemma countsFrom_of_leavesTimer (h : w.leavesTimer hs) : w.countsFrom t hs = t := by
  induction hs generalizing w with
  | nil => rfl
  | cons x hs ih =>
    rw [leavesTimer, Bool.and_eq_true, Bool.not_eq_true'] at h
    obtain ⟨hx, hrest⟩ := h
    rw [countsFrom, hx]
    exact ih hrest

/-- The timer does not count from an instant before all those at which the loop acts. -/
lemma le_countsFrom (ht : u ≤ t) (hle : ∀ v ∈ Happening.instants hs, u ≤ v) :
    u ≤ w.countsFrom t hs := by
  induction hs generalizing w t with
  | nil => exact ht
  | cons h hs ih =>
    rw [countsFrom]
    refine ih ?_ fun v hv => hle v (Happening.instants_subset_cons h hs hv)
    split
    · cases hi : h.instant? with
      | none => exact ht
      | some v => exact hle v (Happening.mem_instants_cons hi)
    · exact ht

lemma leavesTimer_concat :
    w.leavesTimer (hs ++ [h]) = (w.leavesTimer hs && !(w.after hs).resets h) := by
  induction hs generalizing w with
  | nil => simp [leavesTimer]
  | cons x hs ih => rw [List.cons_append, leavesTimer, ih, leavesTimer, after_cons, Bool.and_assoc]

lemma inTime_append : w.inTime (xs ++ ys) = (w.inTime xs && (w.after xs).inTime ys) := by
  induction xs generalizing w with
  | nil => rfl
  | cons h xs ih => rw [List.cons_append, inTime, ih, inTime, after_cons, Bool.and_assoc]

/-- When no deadline passes, none has passed in the end. -/
lemma onTime_of_punctual (h : w.punctual e hs) : (w.after hs).onTime e := by
  induction hs generalizing w with
  | nil => exact h
  | cons x hs ih => exact ih (Bool.and_eq_true_iff.mp h).2

/-! ## The deadline after a happening -/

/-- A tick sets the deadline one interval later at most, and just so if it is taken in time. -/
lemma deadline?_tick (hc : w.Consistent config) (ha : w.allows (.turn m .due)) :
    ∃ d, (w.happen (.turn m .due)).1.core.timer.deadline? = some d ∧
      d ≤ m.now + w.core.regime.interval ∧
      (w.onTime m.now → d = m.now + w.core.regime.interval) := by
  obtain ⟨d, v, hv⟩ := tick_due_of_allows ha
  obtain ⟨hd, hle, rfl⟩ := Timer.tick?_eq_some_iff.mp hv
  have hperiod := (hc (allows_turn_iff.mp ha).1).follows.period
  refine ⟨Timer.nextDeadline m.now d w.core.timer.period, ?_, ?_, ?_⟩
  · show (w.core.step m .due).1.timer.deadline? = _
    rw [Core.step_due hv, Core.beginPing_fst hv]
  · rw [hperiod, Timer.nextDeadline]
    split <;> omega
  · intro ht
    have heq : m.now = d := Nat.le_antisymm (onTime_iff.mp ht d hd) hle
    rw [hperiod, ← heq, Timer.nextDeadline_of_le (Nat.le_add_right _ _)]

/-- A change of the regime sets the deadline one interval later, if the network is there. -/
lemma deadline?_of_ne {c : Core} {i : Incident} (hv : config.Valid) (hc : c.Consistent config)
    (hne : (c.step m i).1.regime ≠ c.regime) (hon : (c.step m i).1.regime.onLine = true) :
    (c.step m i).1.timer.deadline? = some (m.now + (c.step m i).1.regime.interval) := by
  have hb := (hc.step hv m i).bounded.nanosPerMilli_le hv
  rw [Core.regime_step] at hne hon hb ⊢
  have hi : i ≠ .due := by
    rintro rfl
    exact hne rfl
  rw [Core.timer_step m c hi, hc.follows.deadline?_retime m.now hb hne, if_pos hon]

/-- Otherwise the deadline stays. -/
lemma deadline?_of_resets_eq_false (hp : (w.happen h).1.phase = .running)
    (hr : w.resets h = false) :
    (w.happen h).1.core.timer.deadline? = w.core.timer.deadline? := by
  obtain ⟨htick, hregime⟩ := resets_eq_false_iff.mp hr
  cases h with
  | bind i => rfl
  | finish m => cases hp
  | turn m i =>
    have hi : i ≠ .due := by
      rintro rfl
      cases htick
    have hafter : w.core.regime.after w.core.config i = w.core.regime :=
      (regime_happen w (.turn m i)).symm.trans hregime
    show (w.core.step m i).1.timer.deadline? = _
    rw [Core.timer_step m w.core hi, hafter, Regime.retime_self]

/-- What sets the timer anew happens at an instant, and the next tick comes one interval later at
most. -/
lemma deadline?_of_resets (hv : config.Valid) (hc : w.Consistent config) (ha : w.allows h)
    (hr : w.resets h = true) (hon : (w.happen h).1.core.regime.onLine = true) :
    ∃ t d, h.instant? = some t ∧ (w.happen h).1.core.timer.deadline? = some d ∧
      d ≤ t + (w.happen h).1.core.regime.interval ∧
      (h.isTick = false ∨ w.onTime t → d = t + (w.happen h).1.core.regime.interval) := by
  by_cases htick : h.isTick = true
  · obtain ⟨m, rfl⟩ := Happening.isTick_iff.mp htick
    obtain ⟨d, hd, hle, heq⟩ := deadline?_tick hc ha
    have hregime : (w.happen (.turn m .due)).1.core.regime = w.core.regime := regime_happen w _
    rw [hregime]
    refine ⟨m.now, d, rfl, hd, hle, fun h => heq ?_⟩
    rcases h with h | h
    · cases h
    · exact h
  · have hne : (w.happen h).1.core.regime ≠ w.core.regime := by
      simpa [resets, htick] using hr
    cases h with
    | bind i => exact absurd rfl hne
    | finish m => exact absurd (Core.regime_finish m w.core) hne
    | turn m i =>
      have hd := deadline?_of_ne hv (hc (allows_turn_iff.mp ha).1) hne hon
      exact ⟨m.now, _, rfl, hd, Nat.le_refl _, fun _ => rfl⟩

/-! ## Along a life -/

/-- **The next tick comes one interval after the instant from which the timer counts.**  This is so
whenever the network is there, if every tick is taken in time; and the tick never comes later than
that. -/
lemma deadline?_after (hv : config.Valid) (hl : (launch config workerHeld).lives hs)
    (hp : ((launch config workerHeld).after hs).phase = .running)
    (hon : ((launch config workerHeld).after hs).core.regime.onLine = true) :
    ∃ d, ((launch config workerHeld).after hs).core.timer.deadline? = some d ∧
      d ≤ (launch config workerHeld).countsFrom 0 hs +
        ((launch config workerHeld).after hs).core.regime.interval ∧
      ((launch config workerHeld).inTime hs →
        d = (launch config workerHeld).countsFrom 0 hs +
          ((launch config workerHeld).after hs).core.regime.interval) := by
  -- induction on the life, the latest happening first
  induction hs using List.reverseRecOn with
  | nil => cases hon
  | append_singleton xs h ih =>
    obtain ⟨hlx, ha, -⟩ := lives_append_cons.mp hl
    have hc := (consistent_launch hv workerHeld).after hv hlx
    rw [after_concat] at hp hon ⊢
    rw [countsFrom_append, countsFrom, countsFrom, inTime_append]
    cases hr : ((launch config workerHeld).after xs).resets h with
    | true =>
      obtain ⟨t, d, ht, hd, hle, heq⟩ := deadline?_of_resets hv hc ha hr hon
      rw [if_pos rfl, ht]
      refine ⟨d, hd, hle, fun hin => heq ?_⟩
      have hlast := (Bool.and_eq_true_iff.mp hin).2
      simpa [inTime, ht] using hlast
    | false =>
      -- the timer is left alone, and so is the regime
      have hregime := (resets_eq_false_iff.mp hr).2
      rw [hregime] at hon ⊢
      obtain ⟨d, hd, hle, heq⟩ := ih hlx (running_of_happen hp) hon
      rw [if_neg Bool.false_ne_true]
      refine ⟨d, ?_, hle, fun hin => heq (Bool.and_eq_true_iff.mp hin).1⟩
      rw [deadline?_of_resets_eq_false hp hr, hd]

/-- While the network is there, the timer was set anew at the instant from which it counts, and has
been left alone ever since. -/
lemma exists_resets (hv : config.Valid) (hl : (launch config workerHeld).lives hs)
    (hon : ((launch config workerHeld).after hs).core.regime.onLine = true) :
    ∃ xs h ys, hs = xs ++ h :: ys ∧
      h.instant? = some ((launch config workerHeld).countsFrom 0 hs) ∧
      ((launch config workerHeld).after xs).resets h = true ∧
      ((launch config workerHeld).after (xs ++ [h])).leavesTimer ys = true := by
  -- induction on the life, the latest happening first
  induction hs using List.reverseRecOn with
  | nil => cases hon
  | append_singleton xs h ih =>
    obtain ⟨hlx, ha, -⟩ := lives_append_cons.mp hl
    have hc := (consistent_launch hv workerHeld).after hv hlx
    rw [countsFrom_append, countsFrom, countsFrom]
    cases hr : ((launch config workerHeld).after xs).resets h with
    | true =>
      rw [after_append] at hon
      obtain ⟨t, -, ht, -⟩ := deadline?_of_resets hv hc ha hr hon
      refine ⟨xs, h, [], rfl, ?_, hr, rfl⟩
      rw [if_pos rfl, ht]
      rfl
    | false =>
      rw [after_concat, (resets_eq_false_iff.mp hr).2] at hon
      obtain ⟨zs, x, ys, rfl, ht, hx, hleaves⟩ := ih hlx hon
      refine ⟨zs, x, ys ++ [h], by simp, ?_, hx, ?_⟩
      · rw [if_neg Bool.false_ne_true]
        exact ht
      · have hafter : ((launch config workerHeld).after (zs ++ [x])).after ys =
            (launch config workerHeld).after (zs ++ x :: ys) := by simp
        rw [leavesTimer_concat, hleaves, hafter, hr]
        rfl

/-- While the timer is left alone, so is the regime. -/
lemma regime_of_leavesTimer (h : w.leavesTimer hs) : (w.after hs).core.regime = w.core.regime := by
  induction hs generalizing w with
  | nil => rfl
  | cons x hs ih =>
    rw [leavesTimer, Bool.and_eq_true, Bool.not_eq_true'] at h
    exact (ih h.2).trans (resets_eq_false_iff.mp h.1).2

/-- **The heartbeat comes within the longest interval, unless the interval is changed.**  Take any
life that starts with a valid configuration, and in the end of which the loop runs and the network
is there.  The last time that the network came, or the interval changed while it was there, or a
heartbeat was handed to the channel, was at some instant `t`, and

* the next tick comes no later than the upper bound of the configuration after `t`;
* therefore, when no tick is ever late, the time that has passed since `t` does not exceed the upper
  bound either. -/
theorem next_tick_within_max (valid : config.validate = .ok ())
    (lives : (launch config workerHeld).lives hs)
    (running : ((launch config workerHeld).after hs).phase = .running)
    (online : ((launch config workerHeld).after hs).core.status.onLine = true) :
    let w := launch config workerHeld
    ∃ xs h ys t d, hs = xs ++ h :: ys ∧ h.instant? = some t ∧
      (w.after (xs ++ [h])).core.status.onLine = true ∧
      ((w.after xs).core.status.onLine = false ∨
        (w.after xs).core.status.intervalMs ≠ (w.after (xs ++ [h])).core.status.intervalMs ∨
        Effect.emit ∈ ((w.after xs).happen h).2) ∧
      (w.after (xs ++ [h])).leavesTimer ys ∧
      (w.after hs).core.timer.deadline? = some d ∧ d ≤ t + millis config.maxIntervalMs.toNat ∧
      ∀ e, w.punctual e hs → e ≤ t + millis config.maxIntervalMs.toNat := by
  intro w
  have hv := HeartbeatConfig.valid_of_validate valid
  have hc := (consistent_launch hv workerHeld).after hv lives running
  obtain ⟨d, hd, hle, -⟩ := deadline?_after hv lives running online
  obtain ⟨xs, h, ys, rfl, ht, hresets, hleaves⟩ := exists_resets hv lives online
  -- the interval in force does not exceed the upper bound
  have hmax : (w.after (xs ++ h :: ys)).core.regime.interval ≤
      millis config.maxIntervalMs.toNat :=
    Nat.mul_le_mul_right _ (UInt64.le_iff_toNat_le.mp hc.bounded.2)
  have hbound : d ≤ w.countsFrom 0 (xs ++ h :: ys) + millis config.maxIntervalMs.toNat :=
    Nat.le_trans hle (Nat.add_le_add_left hmax _)
  have hregime : (w.after (xs ++ h :: ys)).core.regime = (w.after (xs ++ [h])).core.regime := by
    rw [List.append_cons, after_append]
    exact regime_of_leavesTimer hleaves
  have hon : (w.after (xs ++ [h])).core.status.onLine = true :=
    (congrArg Regime.onLine hregime).symm.trans online
  refine ⟨xs, h, ys, _, d, rfl, ht, hon, ?_, hleaves, hd, hbound, fun e he => ?_⟩
  · -- the ways in which the timer is set anew while the network is there
    obtain ⟨hlx, ha, -⟩ := lives_append_cons.mp lives
    by_cases htick : h.isTick = true
    · exact .inr (.inr ((emit_mem_happen_iff ha).mpr htick))
    · have hne : ((w.after xs).happen h).1.core.regime ≠ (w.after xs).core.regime := by
        simpa [resets, htick] using hresets
      by_cases hbefore : (w.after xs).core.status.onLine = false
      · exact .inl hbefore
      · refine .inr (.inl fun hinterval => hne ?_)
        rw [after_append] at hon hinterval
        have hbefore : (w.after xs).core.status.onLine = true := by simpa using hbefore
        exact congrArg₂ Regime.mk (hon.trans hbefore.symm) hinterval.symm
  · exact Nat.le_trans (onTime_iff.mp (onTime_of_punctual he) d hd) hbound

/-- After the first heartbeat a longer interval is set. -/
def lengthened : List Happening :=
  firstHeartbeat ++ [.turn ⟨millis 2500, .epoch, true⟩ (.setInterval 5000)]

theorem next_tick_within_max_lengthened :
    HeartbeatConfig.validate {} = .ok () ∧ (launch {} true).lives lengthened = true ∧
      ((launch {} true).after lengthened).phase = .running ∧
      ((launch {} true).after lengthened).core.status.onLine = true ∧
      ∃ d, ((launch {} true).after lengthened).core.timer.deadline? = some d ∧
        d ≤ millis 2500 + millis 3600000 := by
  have hl : (launch {} true).lives lengthened = true := by decide
  obtain ⟨xs, h, ys, t, d, hs, ht, -, -, -, hd, hle, -⟩ :=
    next_tick_within_max (by rfl) hl (by rfl) (by rfl)
  refine ⟨rfl, hl, rfl, rfl, d, hd, Nat.le_trans hle (Nat.add_le_add_right ?_ _)⟩
  -- no instant of this life is later
  have hmem : t ∈ Happening.instants lengthened := by
    rw [hs, Happening.instants_append]
    exact List.mem_append_right _ (Happening.mem_instants_cons ht)
  have hall : ∀ u ∈ Happening.instants lengthened, u ≤ millis 2500 := by decide
  exact hall t hmem

/-! ## Requests that put the heartbeat off -/

/-- The upper bound, or the lower one in its place. -/
def otherBound (config : HeartbeatConfig) (n : UInt64) : UInt64 :=
  if n = config.maxIntervalMs then config.minIntervalMs else config.maxIntervalMs

/-- The interval that is in force after a number of requests, each for another of the bounds. -/
def wavered (config : HeartbeatConfig) : ℕ → UInt64
  | 0 => config.intervalMs
  | n + 1 => otherBound config (wavered config n)

/-- The network comes, and then every millisecond another of the bounds is asked for. -/
def wavering (config : HeartbeatConfig) : ℕ → List Happening
  | 0 => [.turn ⟨0, .epoch, true⟩ (.signal true)]
  | n + 1 => wavering config n ++
      [.turn ⟨millis (n + 1), .epoch, true⟩ (.setInterval (wavered config (n + 1)))]

lemma wavered_succ_ne (hlt : config.minIntervalMs < config.maxIntervalMs) (n : ℕ) :
    wavered config (n + 1) ≠ wavered config n := by
  rw [wavered, otherBound]
  split
  next heq =>
    rw [heq]
    exact UInt64.ne_of_lt hlt
  next hne => exact Ne.symm hne

lemma inBounds_wavered (hv : config.Valid) (n : ℕ) : config.InBounds (wavered config n) := by
  cases n with
  | zero => exact hv.first
  | succ n =>
    rw [wavered, otherBound]
    split
    · exact ⟨UInt64.le_refl _, hv.min_le_max⟩
    · exact ⟨hv.min_le_max, UInt64.le_refl _⟩

/-- What the requests have come to after a number of them: the network is there, no tick was ever
late, and the next one is still to come. -/
structure Wavering (config : HeartbeatConfig) (workerHeld : Bool) (n : ℕ) : Prop where
  lives : (launch config workerHeld).lives (wavering config n)
  running : ((launch config workerHeld).after (wavering config n)).phase = .running
  idle : ((launch config workerHeld).after (wavering config n)).core.emitting = false
  regime : ((launch config workerHeld).after (wavering config n)).core.regime =
    ⟨true, wavered config n⟩
  deadline? : ((launch config workerHeld).after (wavering config n)).core.timer.deadline? =
    some (millis n + millis (wavered config n).toNat)
  punctual : (launch config workerHeld).punctual (millis (n + 1)) (wavering config n)
  silent : (wavering config n).all (!·.isTick)

/-- A happening at the end of a life keeps it punctual. -/
lemma punctual_concat (ht : h.instant? = some t) (hp : w.punctual t hs)
    (he : (w.after (hs ++ [h])).onTime e) : w.punctual e (hs ++ [h]) := by
  induction hs generalizing w with
  | nil =>
    have hall : h.instant?.all w.onTime = true := by
      rw [ht]
      exact hp
    exact Bool.and_eq_true_iff.mpr ⟨hall, he⟩
  | cons x hs ih =>
    obtain ⟨hx, hrest⟩ := Bool.and_eq_true_iff.mp hp
    exact Bool.and_eq_true_iff.mpr ⟨hx, ih hrest he⟩

/-- Where no tick is taken, no heartbeat is sent. -/
lemma attempts_of_all_not_isTick (hl : w.lives hs) (h : hs.all (!·.isTick)) :
    w.attempts hs = [] := by
  induction hs generalizing w with
  | nil => rfl
  | cons x hs ih =>
    obtain ⟨ha, hl'⟩ := lives_cons.mp hl
    rw [List.all_cons, Bool.and_eq_true, Bool.not_eq_true'] at h
    rw [attempts_of_isTick_eq_false ha h.1]
    exact ih hl' h.2

/-- A request for another interval within the bounds sets the timer anew, and nothing else. -/
lemma request_happen {n k : UInt64} (hv : config.Valid) (hc : w.core.Consistent config)
    (hn : config.InBounds n) (hr : w.core.regime = ⟨true, k⟩) (hne : n ≠ k) :
    (w.happen (.turn m (.setInterval n))).1.core.regime = ⟨true, n⟩ ∧
      (w.happen (.turn m (.setInterval n))).1.core.timer.deadline? =
        some (m.now + millis n.toNat) ∧
      (w.happen (.turn m (.setInterval n))).1.core.emitting = w.core.emitting := by
  have hregime : (w.core.step m (.setInterval n)).1.regime = ⟨true, n⟩ := by
    rw [Core.regime_step, hc.config_eq, Regime.after_of_requestedMs? config _ rfl,
      config.clamp_of_inBounds hn hv, hr]
  have hchange : (w.core.step m (.setInterval n)).1.regime ≠ w.core.regime := by
    rw [hregime, hr]
    exact fun h => hne (congrArg Regime.intervalMs h)
  have hon : (w.core.step m (.setInterval n)).1.regime.onLine = true := by rw [hregime]
  have hd := deadline?_of_ne hv hc hchange hon
  rw [hregime] at hd
  exact ⟨hregime, hd, Core.emitting_step_of_steers rfl⟩

/-- An interval is at least as long as the time until the next request. -/
lemma onTime_of_interval {k : UInt64} {n : ℕ} (hk : 1 ≤ k.toNat)
    (hd : w.core.timer.deadline? = some (millis n + millis k.toNat)) :
    w.onTime (millis (n + 1)) := by
  refine onTime_iff.mpr fun d hd' => ?_
  rw [hd] at hd'
  cases hd'
  unfold millis
  rw [Nat.succ_mul]
  exact Nat.add_le_add_left (Nat.le_mul_of_pos_left _ hk) _

lemma wavering_zero (hv : config.Valid) (workerHeld : Bool) : Wavering config workerHeld 0 := by
  let m : Moment := ⟨0, .epoch, true⟩
  have hc := Core.consistent_new hv workerHeld
  have hregime : ((Core.new config workerHeld).step m (.signal true)).1.regime =
      ⟨true, config.intervalMs⟩ := Core.regime_step m _ _
  have hchange : ((Core.new config workerHeld).step m (.signal true)).1.regime ≠
      (Core.new config workerHeld).regime := by
    rw [hregime]
    exact fun h => Bool.noConfusion (congrArg Regime.onLine h)
  have hd := deadline?_of_ne hv hc hchange (by rw [hregime])
  rw [hregime] at hd
  refine ⟨rfl, rfl, ?_, hregime, ?_, ?_, rfl⟩
  · exact Core.emitting_step_of_steers rfl
  · exact hd
  · exact Bool.and_eq_true_iff.mpr ⟨rfl, onTime_of_interval (hv.first.one_le hv) hd⟩

lemma Wavering.succ (hv : config.Valid) (hlt : config.minIntervalMs < config.maxIntervalMs) {n : ℕ}
    (h : Wavering config workerHeld n) : Wavering config workerHeld (n + 1) := by
  have hc := (consistent_launch hv workerHeld).after hv h.lives h.running
  obtain ⟨hregime, hd, hidle⟩ := request_happen (m := ⟨millis (n + 1), .epoch, true⟩) hv hc
    (inBounds_wavered hv (n + 1)) h.regime (wavered_succ_ne hlt n)
  have hafter : (launch config workerHeld).after (wavering config (n + 1)) =
      (((launch config workerHeld).after (wavering config n)).happen
        (.turn ⟨millis (n + 1), .epoch, true⟩ (.setInterval (wavered config (n + 1))))).1 := by
    rw [wavering, after_concat]
  rw [← hafter] at hregime hd hidle
  refine ⟨?_, ?_, hidle.trans h.idle, hregime, hd, ?_, ?_⟩
  · refine lives_append_cons.mpr ⟨h.lives, ?_, rfl⟩
    refine allows_turn_iff.mpr ⟨h.running, ?_⟩
    rw [Core.awaits_of_steers rfl, h.idle]
    rfl
  · rw [hafter]
    exact h.running
  · exact punctual_concat rfl h.punctual
      (onTime_of_interval ((inBounds_wavered hv (n + 1)).one_le hv) hd)
  · rw [wavering, List.all_append, h.silent]
    rfl

lemma wavering_holds (hv : config.Valid) (hlt : config.minIntervalMs < config.maxIntervalMs)
    (workerHeld : Bool) (n : ℕ) : Wavering config workerHeld n := by
  induction n with
  | zero => exact wavering_zero hv workerHeld
  | succ n ih => exact ih.succ hv hlt

/-- **Requests can put the heartbeat off for as long as they like.**  Unless the bounds of a valid
configuration leave only one interval, there are, for any number of milliseconds, requests for
intervals within the bounds that keep the loop from sending any heartbeat for so long, although the
network is there all the time and no tick is ever late. -/
theorem silent_while_wavering (valid : config.validate = .ok ())
    (two : config.minIntervalMs < config.maxIntervalMs) (workerHeld : Bool) (n : ℕ) :
    let w := launch config workerHeld
    w.lives (wavering config n) ∧ w.punctual (millis (n + 1)) (wavering config n) ∧
      w.attempts (wavering config n) = [] ∧
      ∀ k ≤ n, wavering config k <+: wavering config n ∧
        (w.after (wavering config k)).core.status.onLine = true := by
  intro w
  have hv := HeartbeatConfig.valid_of_validate valid
  have h := wavering_holds hv two workerHeld n
  refine ⟨h.lives, h.punctual, attempts_of_all_not_isTick h.lives h.silent, fun k hk => ⟨?_, ?_⟩⟩
  · induction n with
    | zero => exact (Nat.le_zero.mp hk) ▸ List.prefix_rfl
    | succ n ih =>
      rcases Nat.le_or_eq_of_le_succ hk with hk | rfl
      · exact (ih (wavering_holds hv two workerHeld n) hk).trans (List.prefix_append _ _)
      · exact List.prefix_rfl
  · exact congrArg Regime.onLine (wavering_holds hv two workerHeld k).regime

/-- At most three seconds may lie between heartbeats. -/
def upToThreeSeconds : HeartbeatConfig := { maxIntervalMs := 3000 }

/-- The network comes, and every second another interval is asked for. -/
def puttingOff : List Happening :=
  [.turn ⟨0, .epoch, true⟩ (.signal true),
    .turn ⟨millis 1000, .epoch, true⟩ (.setInterval 3000),
    .turn ⟨millis 2000, .epoch, true⟩ (.setInterval 2000),
    .turn ⟨millis 3000, .epoch, true⟩ (.setInterval 3000)]

/-- **The heartbeat is put off beyond the longest interval.**  The network is there from the
beginning and every tick would be taken in time, but four seconds later no heartbeat has been sent,
and the first one is due only after six seconds. -/
theorem put_off_beyond_max :
    upToThreeSeconds.validate = .ok () ∧
      let w := launch upToThreeSeconds true
      w.lives puttingOff = true ∧ w.punctual (millis 4000) puttingOff = true ∧
        (∀ ps, ps <+: puttingOff → ps ≠ [] → (w.after ps).core.status.onLine = true) ∧
        w.attempts puttingOff = [] ∧
        (w.after puttingOff).core.timer.deadline? = some (millis 6000) ∧
        0 + millis upToThreeSeconds.maxIntervalMs.toNat < millis 4000 := by
  refine ⟨rfl, by decide, by decide, fun ps hps hne => ?_, by decide, by decide, by decide⟩
  have hall : ∀ ps ∈ puttingOff.inits, ps ≠ [] →
      ((launch upToThreeSeconds true).after ps).core.status.onLine = true := by
    simp only [puttingOff, List.inits, List.map_cons, List.map_nil, List.mem_cons,
      List.not_mem_nil, or_false]
    rintro ps (rfl | rfl | rfl | rfl | rfl) h
    · exact absurd rfl h
    all_goals rfl
  exact hall ps ((List.mem_inits _ _).mpr hps) hne

end Watchdog

end LinkWatch
