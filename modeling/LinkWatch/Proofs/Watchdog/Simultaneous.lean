/-
# Signals and requests at one instant

When signals about the network and requests for an interval wait at the same time, it is left to
chance in which order the event loop takes them, except that each source keeps its own order.  The
loop does different things on the way: it may re-time the foreground timer before it starts it or
after, and it may tell the background clock of an interval that is out of date a moment later.

In the end it makes no difference (`Coupled.order_of_sources_immaterial`).  A signal and a request
that follow each other can change places, since both orders lead to the adoption of the same
regime (`Core.step_comm`); and the background clock, when it has carried out everything that it was
told, follows the regime whatever the commands were.
-/
import LinkWatch.Proofs.Watchdog.Adoption
import LinkWatch.Proofs.Watchdog.TwoTimers

namespace LinkWatch

/-! ## Interleavings -/

/-- A list that is made of two others, each of which keeps its own order. -/
inductive Interleaving {α : Type} : List α → List α → List α → Prop
  | nil : Interleaving [] [] []
  | left {x : α} {xs ys zs : List α} (h : Interleaving xs ys zs) :
      Interleaving (x :: xs) ys (x :: zs)
  | right {y : α} {xs ys zs : List α} (h : Interleaving xs ys zs) :
      Interleaving xs (y :: ys) (y :: zs)

namespace Interleaving

variable {α σ : Type} {xs ys zs : List α} {step : σ → α → σ}

lemma mem_or_mem (h : Interleaving xs ys zs) {z : α} (hz : z ∈ zs) : z ∈ xs ∨ z ∈ ys := by
  induction h with
  | nil => cases hz
  | left h ih => grind
  | right h ih => grind

/-- A step that can change places with each of a list can be made before them all. -/
lemma foldl_step_comm {y : α}
    (comm : ∀ s, ∀ x ∈ xs, step (step s x) y = step (step s y) x) (s : σ) :
    xs.foldl step (step s y) = step (xs.foldl step s) y := by
  induction xs generalizing s with
  | nil => rfl
  | cons x xs ih =>
    rw [List.foldl_cons, List.foldl_cons, ← comm s x List.mem_cons_self]
    exact ih (fun s x hx => comm s x (List.mem_cons_of_mem _ hx)) _

/-- When the steps of two lists can change places, every interleaving ends where it does to make
those of the one list first. -/
lemma foldl_eq (h : Interleaving xs ys zs)
    (comm : ∀ s, ∀ x ∈ xs, ∀ y ∈ ys, step (step s x) y = step (step s y) x) (s : σ) :
    zs.foldl step s = ys.foldl step (xs.foldl step s) := by
  induction h generalizing s with
  | nil => rfl
  | left h ih => exact ih (fun s x hx => comm s x (List.mem_cons_of_mem _ hx)) _
  | @right y xs ys zs h ih =>
    rw [List.foldl_cons, List.foldl_cons,
      ih fun s x hx y hy => comm s x hx y (List.mem_cons_of_mem _ hy)]
    rw [foldl_step_comm fun s x hx => comm s x hx y List.mem_cons_self]

end Interleaving

namespace Incident

/-- Whether an incident may be a request for an interval. -/
def isRequest : Incident → Bool
  | .inbound _ | .setInterval _ => true
  | _ => false

lemma steers_of_isRequest {i : Incident} (h : i.isRequest) : i.steers := by
  cases i with
  | inbound | setInterval => rfl
  | _ => cases h

end Incident

/-! ## Adopting a regime by halves -/

namespace Timer

/-- Re-timing and starting can change places. -/
lemma setPeriod_start (now period : ℕ) (t : Timer) :
    (t.start now).setPeriod now period = (t.setPeriod now period).start now := by
  cases h : t.isRunning <;> simp [start, setPeriod, h]

/-- Re-timing and stopping can change places. -/
lemma setPeriod_stop (now period : ℕ) (t : Timer) :
    t.stop.setPeriod now period = (t.setPeriod now period).stop := by
  cases h : t.isRunning <;> simp [setPeriod, h] <;> rfl

end Timer

namespace Regime

variable (now : ℕ) (r : Regime) (t : Timer) (online : Bool) (n : UInt64)

/-- A timer that is started or stopped first, and then takes the new interval, is re-timed. -/
lemma retime_of_onLine_first :
    Regime.retime now ⟨online, r.intervalMs⟩ ⟨online, n⟩
      (r.retime now ⟨online, r.intervalMs⟩ t) = r.retime now ⟨online, n⟩ t := by
  simp only [retime, repace, if_true]
  split
  · rfl
  · split
    · rfl
    · split
      · exact Timer.setPeriod_start ..
      · exact Timer.setPeriod_stop ..

/-- A timer that takes the new interval first, and then is started or stopped, is re-timed. -/
lemma retime_of_interval_first :
    Regime.retime now ⟨r.onLine, n⟩ ⟨online, n⟩ (r.retime now ⟨r.onLine, n⟩ t) =
      r.retime now ⟨online, n⟩ t := by
  simp only [retime, repace, if_true]
  rfl

/-- The background clock is told something on the way just when it is told something at once. -/
lemma isEmpty_commands_of_onLine_first :
    ((r.commands ⟨online, r.intervalMs⟩).isEmpty &&
      (Regime.commands ⟨online, r.intervalMs⟩ ⟨online, n⟩).isEmpty) =
        (r.commands ⟨online, n⟩).isEmpty := by
  obtain ⟨on, n'⟩ := r
  cases on <;> cases online <;> simp [commands]

lemma isEmpty_commands_of_interval_first :
    ((r.commands ⟨r.onLine, n⟩).isEmpty &&
      (Regime.commands ⟨r.onLine, n⟩ ⟨online, n⟩).isEmpty) = (r.commands ⟨online, n⟩).isEmpty := by
  obtain ⟨on, n'⟩ := r
  cases on <;> cases online <;> simp [commands]

/-- A request has no part in whether the network is there. -/
lemma after_of_isRequest (config : HeartbeatConfig) {i : Incident} (h : i.isRequest) :
    Regime.after config ⟨online, r.intervalMs⟩ i = ⟨online, (r.after config i).intervalMs⟩ := by
  cases hn : i.requestedMs? with
  | some n => rw [after_of_requestedMs? _ _ hn, after_of_requestedMs? _ _ hn]
  | none =>
    have hs : ∀ online, i ≠ .signal online := by
      rintro online rfl
      cases h
    rw [after_of_other _ _ hn hs, after_of_other _ _ hn hs]

end Regime

namespace Core

variable (m : Moment) (c : Core) (online : Bool) (n : UInt64)

/-- The link is kept through two changes if it is kept through one with the commands of both. -/
lemma workerHeld_adopt (held listening none none' : Bool) :
    (held && (listening || none) && (listening || none')) =
      (held && (listening || (none && none'))) := by
  cases held <;> cases listening <;> simp

variable {m c} in
/-- A regime can be adopted by way of another, if the timer and the link do not tell the difference
and the network comes or goes once at most. -/
lemma adopt_adopt {r r' : Regime}
    (htimer : r'.retime m.now r (c.regime.retime m.now r' c.timer) =
      c.regime.retime m.now r c.timer)
    (hcommands : ((c.regime.commands r').isEmpty && (r'.commands r).isEmpty) =
      (c.regime.commands r).isEmpty)
    (honce : r'.onLine = c.status.onLine ∨ r'.onLine = r.onLine) :
    (c.adopt m r').adopt m r = c.adopt m r := by
  rw [adopt, adopt, adopt, Core.mk.injEq]
  refine ⟨rfl, htimer, ?_, rfl, rfl, ?_, ?_, ?_, rfl⟩
  · show (_ && (m.listening || _) && (m.listening || _)) = _
    rw [workerHeld_adopt]
    exact congrArg (fun b => c.workerHeld && (m.listening || b)) hcommands
  all_goals rcases honce with h | h <;> simp [h]

/-- A new regime can be adopted by halves, the network first. -/
lemma adopt_of_onLine_first :
    (c.adopt m ⟨online, c.status.intervalMs⟩).adopt m ⟨online, n⟩ = c.adopt m ⟨online, n⟩ :=
  adopt_adopt (c.regime.retime_of_onLine_first m.now c.timer online n)
    (c.regime.isEmpty_commands_of_onLine_first online n) (.inr rfl)

/-- A new regime can be adopted by halves, the interval first. -/
lemma adopt_of_interval_first :
    (c.adopt m ⟨c.status.onLine, n⟩).adopt m ⟨online, n⟩ = c.adopt m ⟨online, n⟩ :=
  adopt_adopt (c.regime.retime_of_interval_first m.now c.timer online n)
    (c.regime.isEmpty_commands_of_interval_first online n) (.inl rfl)

/-! ## Turns that change places -/

variable {m c online} {i j d : Incident}

/-- Whether the snapshot was shown before makes no difference to what is shown next. -/
lemma shown_adopt_shown (r : Regime) (k : ℕ) :
    ((c.shown.adopt m r).reject k).shown = ((c.adopt m r).reject k).shown := by
  cases he : c.emitting with
  | true => rw [show c.shown = c from if_pos he]
  | false =>
    have hshown : ∀ c' : Core, c'.emitting = false → c'.shown = c'.publish.1 := fun c' he' =>
      if_neg (by simp [he'])
    rw [hshown c he, hshown ((c.publish.1.adopt m r).reject k) he,
      hshown ((c.adopt m r).reject k) he]
    rfl

/-- Malformed directives can be counted later. -/
lemma reject_adopt_reject (r : Regime) (k l : ℕ) :
    ((c.reject k).adopt m r).reject l = (c.adopt m r).reject (k + l) := by
  show ({ c.adopt m r with
    status.rejectedDirectives := c.status.rejectedDirectives + k + l } : Core) = _
  rw [Nat.add_assoc]
  rfl

lemma step_fst_of_steers (hi : i.steers) :
    (c.step m i).1 = ((c.adopt m (c.regime.after c.config i)).reject i.rejections).shown := by
  rw [step_fst, handle_fst_of_steers m hi]

/-- Two turns adopt one regime after the other. -/
lemma step_step_of_steers (hi : i.steers) (hj : j.steers) :
    ((c.step m i).1.step m j).1 =
      (((c.adopt m (c.regime.after c.config i)).adopt m
        ((c.regime.after c.config i).after c.config j)).reject
          (i.rejections + j.rejections)).shown := by
  rw [step_fst_of_steers hj, regime_step, config_step, step_fst_of_steers hi, shown_adopt_shown,
    reject_adopt_reject]

/-- **A signal and a request can change places.** -/
lemma step_comm (hd : d.isRequest) :
    ((c.step m (.signal online)).1.step m d).1 = ((c.step m d).1.step m (.signal online)).1 := by
  have hds := Incident.steers_of_isRequest hd
  rw [step_step_of_steers rfl hds, step_step_of_steers hds rfl, Nat.add_comm]
  have h1 := c.regime.after_of_isRequest online c.config hd
  have h2 : c.regime.after c.config d = ⟨c.status.onLine, (c.regime.after c.config d).intervalMs⟩ :=
    c.regime.after_of_isRequest c.status.onLine c.config hd
  rw [Regime.after_signal, Regime.after_signal]
  show (((c.adopt m ⟨online, c.status.intervalMs⟩).adopt m
    (Regime.after c.config ⟨online, c.regime.intervalMs⟩ d)).reject _).shown = _
  rw [h1, adopt_of_onLine_first, h2, adopt_of_interval_first]

/-! ## Turns at one instant -/

/-- What the indicators are told of signals that come one after the other, when the network was
there or not before. -/
def relay (bound : List Indicator) (online : Bool) : List Bool → List Notice
  | [] => []
  | b :: bs => (if b = online then [] else bound.map fun i => ⟨i, b⟩) ++ relay bound b bs

lemma bound_step_of_steers (hi : i.steers) :
    (c.step m i).1.indicators.bound = c.indicators.bound := by
  rw [step_fst, indicators_shown, handle_fst_of_steers m hi]
  rfl

end Core

namespace Watchdog

variable {w : Watchdog} {m : Moment} {cs : List Bool} {ds is : List Incident}

lemma after_turns (m : Moment) (w : Watchdog) (is : List Incident) :
    w.after (is.map (.turn m)) =
      { w with core := is.foldl (fun c i => (c.step m i).1) w.core } := by
  induction is generalizing w with
  | nil => rfl
  | cons i is ih => exact ih _

/-- The indicators are told of the signals, whatever requests come in between. -/
lemma notices_turns (h : Interleaving (cs.map .signal) ds is) (hds : ∀ d ∈ ds, d.isRequest) :
    w.notices (is.map (.turn m)) =
      Core.relay w.core.indicators.bound w.core.status.onLine cs := by
  generalize hxs : cs.map Incident.signal = xs at h
  induction h generalizing w cs with
  | nil =>
    obtain rfl := List.map_eq_nil_iff.mp hxs
    rfl
  | @left x xs ys zs h ih =>
    obtain ⟨b, bs, rfl, rfl, rfl⟩ := List.map_eq_cons_iff.mp hxs
    have hih := ih (w := (w.happen (.turn m (.signal b))).1) hds rfl
    have hbound : (w.happen (.turn m (.signal b))).1.core.indicators.bound =
        w.core.indicators.bound := Core.bound_step_of_steers rfl
    have honline : (w.happen (.turn m (.signal b))).1.core.status.onLine = b :=
      congrArg Regime.onLine (Core.regime_step m w.core (.signal b))
    rw [hbound, honline] at hih
    rw [List.map_cons, notices, hih]
    exact congrArg (· ++ _) (Core.notices_step m w.core (.signal b))
  | @right y xs ys zs h ih =>
    have hy := hds y List.mem_cons_self
    have hih := ih (w := (w.happen (.turn m y)).1) (fun d hd => hds d (List.mem_cons_of_mem _ hd))
      hxs
    have hbound : (w.happen (.turn m y)).1.core.indicators.bound = w.core.indicators.bound :=
      Core.bound_step_of_steers (Incident.steers_of_isRequest hy)
    have hafter : (w.core.regime.after w.core.config y).onLine = w.core.status.onLine :=
      congrArg Regime.onLine (w.core.regime.after_of_isRequest w.core.status.onLine _ hy)
    have honline : (w.happen (.turn m y)).1.core.status.onLine = w.core.status.onLine :=
      (congrArg Regime.onLine (Core.regime_step m w.core y)).trans hafter
    have hnone : (w.happen (.turn m y)).2.filterMap Effect.notice? = [] :=
      (Core.notices_step m w.core y).trans (if_pos hafter)
    rw [hbound, honline] at hih
    rw [List.map_cons, notices, hih, hnone, List.nil_append]

end Watchdog

namespace Coupled

variable {config : HeartbeatConfig} {start s t : Coupled} {m : Move} {ms : List Move}

/-! ## Without a background clock -/

/-- A watchdog without a background clock. -/
def alone (config : HeartbeatConfig) : Coupled := ⟨.launch config false, .absent⟩

/-- Where there is a clock, there was one before, and it was not stopped from outside. -/
lemma Step.isSome_clock? (step : Step s m t) (hc : t.wired.clock?.isSome) :
    s.wired.clock?.isSome ∧ m ≠ .abort := by
  cases step with
  | watchdog => exact ⟨hc, by simp⟩
  | obey => exact ⟨rfl, by simp⟩
  | tick => exact ⟨rfl, by simp⟩
  | _ => cases hc

lemma Run.isSome_clock? (run : Run s ms t) (hc : t.wired.clock?.isSome) :
    s.wired.clock?.isSome ∧ Move.abort ∉ ms := by
  induction run with
  | start => exact ⟨hc, by simp⟩
  | next run step ih =>
    obtain ⟨ht, hm⟩ := step.isSome_clock? hc
    obtain ⟨hs, hms⟩ := ih ht
    exact ⟨hs, by simp [hms, hm.symm]⟩

/-! ## Turns at one instant -/

/-- The moves in which the event loop deals with incidents at one moment. -/
def turns (m : Moment) (is : List Incident) : List Move := is.map fun i => .watchdog (.turn m i)

lemma life_turns (m : Moment) (is : List Incident) : life (turns m is) = is.map (.turn m) := by
  simp [life, turns, Function.comp_def, Move.happening?]

/-- Between heartbeats the event loop can take signals and requests in any order. -/
lemma exists_run_turns {m : Moment} {is : List Incident} (hp : s.watchdog.phase = .running)
    (hidle : s.watchdog.core.emitting = false) (hm : m.listening = s.wired.link.listening)
    (hs : ∀ i ∈ is, i.steers) : ∃ t, Run s (turns m is) t := by
  induction is generalizing s with
  | nil => exact ⟨s, .start⟩
  | cons i is ih =>
    obtain ⟨w, l, clock?⟩ := s
    have hi := hs i List.mem_cons_self
    let next : Coupled :=
      ⟨(w.happen (.turn m i)).1, ⟨l.performAll (w.happen (.turn m i)).2, clock?⟩⟩
    have step : Step ⟨w, ⟨l, clock?⟩⟩ (.watchdog (.turn m i)) next := by
      refine .watchdog ?_ hm ?_
      · refine Watchdog.allows_turn_iff.mpr ⟨hp, ?_⟩
        rw [Core.awaits_of_steers hi, show w.core.emitting = false from hidle]
        rfl
      · cases i with
        | signal | inbound | setInterval => rfl
        | _ => cases hi
    have hlisten : next.wired.link.listening = l.listening := by
      show (l.performAll _).listening = _
      rw [Link.performAll_eq]
    obtain ⟨t, run⟩ := ih (s := next) hp ((Core.emitting_step_of_steers hi).trans hidle)
      (hm.trans hlisten.symm) fun i hi => hs i (List.mem_cons_of_mem _ hi)
    exact ⟨t, step.run.trans run⟩

/-- **It makes no difference in which order the event loop takes what waits.**  Take any state that
the event loop can reach between two heartbeats, with a background clock at its side or without
one, and let signals about the network and requests for an interval (well-formed or malformed, or
not meant for the watchdog at all) wait in it, all of them at the same moment.  Every interleaving
of the two is possible, and all of them end in the same state of the event loop, with the same
notices to the indicators.  The background clock, once it has carried out the commands that wait
for it then, runs or does not run, and at a period, as that state asks for. -/
theorem order_of_sources_immaterial (valid : config.validate = .ok ())
    (reached : start = launch config ∨ start = alone config) (run : Run start ms s)
    (running : s.watchdog.phase = .running) (idle : s.watchdog.core.emitting = false)
    {m : Moment} (finds : m.listening = s.wired.link.listening) {cs : List Bool}
    {ds : List Incident} (requests : ∀ d ∈ ds, d.isRequest) :
    ∃ (core : Core) (notices : List Notice), ∀ is, Interleaving (cs.map .signal) ds is →
      (∃ t, Run s (turns m is) t) ∧
      ∀ t, Run s (turns m is) t →
        t.watchdog.core = core ∧
        s.watchdog.notices (is.map (.turn m)) = notices ∧
        ∀ c, t.wired.clock? = some c →
          ∀ orders : List (ℕ × ClockCommand), orders.map Prod.snd = t.wired.link.commands →
            (c.obeyAll orders).timer.isRunning = core.status.onLine ∧
            (core.status.onLine = true →
              (c.obeyAll orders).timer.period = millis core.status.intervalMs.toNat) := by
  have hv := HeartbeatConfig.valid_of_validate valid
  let turn : Core → Incident → Core := fun c i => (c.step m i).1
  refine ⟨ds.foldl turn ((cs.map .signal).foldl turn s.watchdog.core),
    Core.relay s.watchdog.core.indicators.bound s.watchdog.core.status.onLine cs,
    fun is his => ⟨?_, fun t hrun => ?_⟩⟩
  · refine exists_run_turns running idle finds fun i hi => ?_
    rcases his.mem_or_mem hi with hi | hi
    · obtain ⟨b, -, rfl⟩ := List.mem_map.mp hi
      rfl
    · exact Incident.steers_of_isRequest (requests i hi)
  · have hwatchdog : t.watchdog = { s.watchdog with core := is.foldl turn s.watchdog.core } := by
      rw [hrun.watchdog_eq.2, life_turns, Watchdog.after_turns]
    have hcore : t.watchdog.core = ds.foldl turn ((cs.map .signal).foldl turn s.watchdog.core) := by
      rw [hwatchdog]
      refine his.foldl_eq (fun c i hi d hd => ?_) _
      obtain ⟨b, -, rfl⟩ := List.mem_map.mp hi
      exact Core.step_comm (requests d hd)
    refine ⟨hcore, Watchdog.notices_turns his requests, fun c hc orders ho => ?_⟩
    -- with a clock at its side the watchdog holds the link, and the queue makes up for the rest
    have hall := run.trans hrun
    obtain ⟨hstart, habort⟩ := hall.isSome_clock? (by rw [hc]; rfl)
    rcases reached with rfl | rfl
    · have hheld := hall.held_of_not_abort hv habort (by rw [hwatchdog]; exact running)
      have hagrees := (hall.aligned hv).agrees hheld.1 c hc
      rw [← ho, ← Clock.pace_obeyAll, hcore] at hagrees
      exact ⟨hagrees.running, hagrees.period⟩
    · cases hstart

/-- The network comes, and the background clock learns of it. -/
def underWay : List Move :=
  [.watchdog (.turn ⟨0, .epoch, true⟩ (.signal true)), .obey (millis 1000) (.start 2000)]

theorem order_of_flap_and_request_immaterial :
    let m : Moment := ⟨millis 1500, .epoch, true⟩
    ∃ s t u, Run (launch {}) underWay s ∧
      Run s (turns m [.signal false, .signal true, .setInterval 5000]) t ∧
      Run s (turns m [.setInterval 5000, .signal false, .signal true]) u ∧
      t.wired.link.commands = [.stop, .start 2000, .start 5000] ∧
      u.wired.link.commands = [.start 5000, .stop, .start 5000] ∧
      t.watchdog.core = u.watchdog.core ∧
      t.watchdog.core.timer.deadline? = some (millis 6500) := by
  intro m
  have r1 := (Run.start (s := launch {})).next (.watchdog rfl rfl rfl)
    (m := .watchdog (.turn ⟨0, .epoch, true⟩ (.signal true)))
  have run := r1.next (.obey rfl) (m := .obey (millis 1000) (.start 2000))
  have fresh : ∀ s, Run (launch {}) underWay s → Run s [] s := fun _ _ => .start
  -- one after the other, and the request before the signals
  have t1 := (fresh _ run).next (.watchdog rfl rfl rfl)
    (m := .watchdog (.turn m (.signal false)))
  have t2 := t1.next (.watchdog rfl rfl rfl) (m := .watchdog (.turn m (.signal true)))
  have first := t2.next (.watchdog rfl rfl rfl) (m := .watchdog (.turn m (.setInterval 5000)))
  have u1 := (fresh _ run).next (.watchdog rfl rfl rfl)
    (m := .watchdog (.turn m (.setInterval 5000)))
  have u2 := u1.next (.watchdog rfl rfl rfl) (m := .watchdog (.turn m (.signal false)))
  have second := u2.next (.watchdog rfl rfl rfl) (m := .watchdog (.turn m (.signal true)))
  have requests : ∀ d ∈ [Incident.setInterval 5000], d.isRequest := by simp [Incident.isRequest]
  have before : Interleaving ([false, true].map Incident.signal) [.setInterval 5000]
      [.signal false, .signal true, .setInterval 5000] := .left (.left (.right .nil))
  have after : Interleaving ([false, true].map Incident.signal) [.setInterval 5000]
      [.setInterval 5000, .signal false, .signal true] := .right (.left (.left .nil))
  obtain ⟨core, notices, h⟩ := order_of_sources_immaterial rfl (.inl rfl) run rfl rfl (m := m) rfl
    requests
  have hfirst := ((h _ before).2 _ first).1
  have hsecond := ((h _ after).2 _ second).1
  exact ⟨_, _, _, run, first, second, rfl, rfl, hfirst.trans hsecond.symm, by decide⟩

end Coupled

end LinkWatch
