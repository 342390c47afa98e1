/-
# Ticks in flight

A tick of the background clock says nothing but that the clock ticked.  It waits until the event
loop counts it, and by then the regime may be another one: the command that belongs to the change
goes the other way, and the clock has not carried it out when it ticks.

So a tick that is counted tells of the regime that the clock knew when it ticked.  The link hands on
ticks in the order in which they were produced (`Coupled.Run.ticks_eq`), and what the clock knows is
the last command that it carried out.  `Coupled.counted_tick_follows_commands` puts this together:
a counted tick was produced under an interval that was in force, while the network was there, when
the last of the commands that the clock had carried out was sent.  If no command was sent since,
this is the regime in force.  Otherwise it need not be: ticks are counted under an interval they
were not produced under, and while the network is away (`Coupled.counted_tick_overtaken`).
-/
import LinkWatch.Proofs.Watchdog.TwoTimers

namespace LinkWatch

/-- When more elements of a list satisfy a condition than a given number, one of them comes after
exactly that number of them. -/
lemma exists_append_of_lt_countP {α : Type} {p : α → Bool} {l : List α} {k : ℕ}
    (h : k < l.countP p) : ∃ xs a zs, l = xs ++ a :: zs ∧ p a ∧ xs.countP p = k := by
  induction l generalizing k with
  | nil => simp at h
  | cons b l ih =>
    by_cases hb : p b
    · rw [List.countP_cons_of_pos hb] at h
      cases k with
      | zero => exact ⟨[], b, l, rfl, hb, rfl⟩
      | succ k =>
        obtain ⟨xs, a, zs, rfl, ha, hk⟩ := ih (Nat.lt_of_succ_lt_succ h)
        exact ⟨b :: xs, a, zs, rfl, ha, by rw [List.countP_cons_of_pos hb, hk]⟩
    · rw [List.countP_cons_of_neg hb] at h
      obtain ⟨xs, a, zs, rfl, ha, hk⟩ := ih h
      exact ⟨b :: xs, a, zs, rfl, ha, by rw [List.countP_cons_of_neg hb, hk]⟩

/-! ## What the clock knows -/

/-- A pace that commands lead to, and at which the clock runs, is that of the last command. -/
lemma Pace.foldl_obey_running {p : Pace} {ks : List ClockCommand} (hp : p.running = false)
    (hr : (ks.foldl Pace.obey p).running = true) :
    ∃ n, ks.getLast? = some (.start n) ∧
      (ks.foldl Pace.obey p).period = max (millis n.toNat) nanosPerMilli := by
  rcases List.eq_nil_or_concat ks with rfl | ⟨ks, k, rfl⟩
  · rw [List.foldl_nil, hp] at hr
    cases hr
  · rw [List.concat_eq_append, List.foldl_append] at hr ⊢
    cases k with
    | start n => exact ⟨n, List.getLast?_concat, rfl⟩
    | stop => cases hr

namespace Regime

/-- A regime is announced by a command to start just when the network is there. -/
lemma announcement_eq_start_iff {r : Regime} {n : UInt64} :
    r.announcement = .start n ↔ r = ⟨true, n⟩ := by
  obtain ⟨on, n'⟩ := r
  cases on <;> simp [announcement]

end Regime

namespace Watchdog

variable {w : Watchdog} {hs xs ys : List Happening} {ks : List ClockCommand} {k : ClockCommand}

lemma owed_concat (w : Watchdog) (hs : List Happening) (h : Happening) :
    w.owed (hs ++ [h]) = w.owed hs ++
      (w.after hs).core.regime.commands ((w.after hs).happen h).1.core.regime := by
  rw [owed_append, owed, owed, List.append_nil]

/-- The last of the commands that belong to the changes of the regime announces the regime in
force. -/
lemma announcement_of_getLast?_owed (hk : (w.owed hs).getLast? = some k) :
    (w.after hs).core.regime.announcement = k := by
  induction hs using List.reverseRecOn with
  | nil => cases hk
  | append_singleton xs h ih =>
    rw [owed_concat, Regime.commands_eq] at hk
    rw [after_concat]
    split at hk
    next heq =>
      rw [List.append_nil] at hk
      exact heq.trans (ih hk)
    next =>
      rw [List.getLast?_concat] at hk
      exact Option.some.inj hk

/-- Up to each of the commands that belong to the changes of the regime there is some part of the
life. -/
lemma exists_owed_eq_of_prefix (hks : ks <+: w.owed hs) : ∃ us, us <+: hs ∧ w.owed us = ks := by
  induction hs using List.reverseRecOn with
  | nil => exact ⟨[], List.prefix_rfl, (List.prefix_nil.mp hks).symm⟩
  | append_singleton xs h ih =>
    by_cases heq : ks = w.owed (xs ++ [h])
    · exact ⟨xs ++ [h], List.prefix_rfl, heq.symm⟩
    · -- the last happening adds one command at most
      have hxs : ks <+: w.owed xs := by
        rw [owed_concat, Regime.commands_eq] at hks heq
        split at hks
        next hann => simpa using hks
        next hann =>
          rw [if_neg hann] at heq
          exact (List.prefix_concat_iff.mp hks).resolve_left heq
      obtain ⟨us, hus, howed⟩ := ih hxs
      exact ⟨us, hus.trans (List.prefix_append xs [h]), howed⟩

/-- A link that is held was held before. -/
lemma holdsLink_of_append (hl : w.lives (xs ++ ys)) (hh : (w.after (xs ++ ys)).holdsLink = true) :
    (w.after xs).holdsLink = true := by
  induction ys using List.reverseRecOn with
  | nil => simpa using hh
  | append_singleton ys h ih =>
    rw [← List.append_assoc] at hl hh
    obtain ⟨hlx, ha, -⟩ := lives_append_cons.mp hl
    refine ih hlx ?_
    rw [after_concat, holdsLink_happen ha] at hh
    exact (Bool.and_eq_true_iff.mp hh).1

/-- As long as the loop holds the link, it has sent the commands that belong to the changes of the
regime. -/
lemma sent_eq_owed (hl : w.lives hs) (hh : (w.after hs).holdsLink = true) :
    w.sent hs = w.owed hs :=
  (sent_prefix_owed hl (holdsLink_iff.mp hh).1).2 hh

end Watchdog

/-! ## Ticks on the link -/

namespace Link

/-- The event loop takes a tick from the link just when it counts one. -/
lemma ticks_of_heard? {l rest : Link} {h : Happening} (hr : l.heard? h = some rest) :
    l.ticks = rest.ticks + if h.isBackgroundTick then 1 else 0 := by
  unfold heard? at hr
  split at hr
  · split at hr
    next rest' ht =>
      cases hr
      rw [receive] at ht
      split at ht
      next n hn =>
        cases ht
        exact hn
      next => split at ht <;> cases ht
    next => cases hr
  · split at hr <;> cases hr
    rfl
  next hne _ =>
    cases hr
    rw [if_neg]
    · rfl
    · intro hb
      obtain ⟨m, rfl⟩ := Happening.isBackgroundTick_iff.mp hb
      exact hne m rfl

/-- As long as the link is not dropped, the effects of the event loop leave the ticks where they
are. -/
lemma ticks_performAll {l : Link} {es : List Effect} (h : (l.performAll es).held = true) :
    l.held = true ∧ (l.performAll es).ticks = l.ticks := by
  rw [performAll_eq] at h ⊢
  obtain ⟨hl, hrel⟩ := Bool.and_eq_true_iff.mp h
  rw [Bool.not_eq_true'] at hrel
  exact ⟨hl, if_neg (Bool.eq_false_iff.mp hrel)⟩

end Link

namespace Coupled

/-- Whether the clock ticks in a move. -/
def Move.isTick : Move → Bool
  | .tick _ => true
  | _ => false

variable {config : HeartbeatConfig} {s t : Coupled} {m : Move} {ms ns : List Move}

lemma Run.exists_of_concat (run : Run s (ms ++ [m]) t) : ∃ u, Run s ms u ∧ Step u m t := by
  generalize hall : ms ++ [m] = all at run
  cases run with
  | start => simp at hall
  | next run step =>
    obtain ⟨rfl, hm⟩ := List.append_inj' hall rfl
    cases hm
    exact ⟨_, run, step⟩

/-- A run goes through the end of its first part. -/
lemma Run.exists_of_append (run : Run s (ms ++ ns) t) : ∃ u, Run s ms u ∧ Run u ns t := by
  induction ns using List.reverseRecOn generalizing t with
  | nil =>
    rw [List.append_nil] at run
    exact ⟨t, run, .start⟩
  | append_singleton ns m ih =>
    rw [← List.append_assoc] at run
    obtain ⟨v, before, step⟩ := run.exists_of_concat
    obtain ⟨u, first, rest⟩ := ih before
    exact ⟨u, first, rest.next step⟩

/-- **Ticks are counted in the order in which they are produced.**  While the link is held, those
that were produced are those that were counted and those that wait. -/
lemma Run.ticks_eq (run : Run (launch config) ms t) (hheld : t.wired.link.held = true) :
    ms.countP Move.isTick =
      (life ms).countP Happening.isBackgroundTick + t.wired.link.ticks := by
  induction run with
  | start => rfl
  | @next ms m t u run step ih =>
    rw [List.countP_append, life_append, List.countP_append]
    cases step with
    | @watchdog w l rest clock? h allowed finds heard =>
      obtain ⟨hrest, hticks⟩ := Link.ticks_performAll hheld
      have hl : l.held = true := by
        obtain ⟨n, hn⟩ := Link.heard?_eq_some heard
        rw [hn] at hrest
        exact hrest
      have hih : ms.countP Move.isTick = _ + l.ticks := ih hl
      have hlife : (life [.watchdog h]).countP Happening.isBackgroundTick =
          if h.isBackgroundTick then 1 else 0 := List.countP_singleton
      show ms.countP Move.isTick + 0 = _ + _ + (rest.performAll (w.happen h).2).ticks
      rw [hih, hlife, hticks, Link.ticks_of_heard? heard]
      omega
    | @obey w l rest c now k taken =>
      obtain ⟨ks, -, rfl⟩ := Link.take_eq_command_iff.mp taken
      exact ih hheld
    | @tick w l c c' now told due ticks =>
      have hl : l.held = true := by
        obtain ⟨n, hn⟩ := l.tick_eq
        rw [hn] at hheld
        exact hheld
      rw [Link.tick, if_pos hl]
      exact congrArg (· + 1) (ih hl)
    | _ => exact ih hheld

/-- The clock goes at the pace that the commands lead to which it carried out. -/
lemma Run.pace_eq (run : Run (launch config) ms t) {c : Clock} (hc : t.wired.clock? = some c) :
    c.pace = (ms.filterMap Move.obeyed?).foldl Pace.obey Clock.idle.pace := by
  induction run generalizing c with
  | start =>
    cases hc
    rfl
  | @next ms m t u run step ih =>
    rw [List.filterMap_append, List.foldl_append]
    cases step with
    | watchdog => exact ih hc
    | @obey w l rest c now k taken =>
      cases hc
      rw [← ih rfl]
      exact Clock.pace_obey now c k
    | @tick w l c c' now told due ticks =>
      cases hc
      rw [← ih rfl]
      exact Clock.pace_of_step_due ticks
    | _ => cases hc

/-! ## The tick that is counted -/

/-- When the event loop counts a tick it holds the link, and the tick waited there. -/
lemma Step.ticks_pos {m : Moment} (step : Step s (.watchdog (.turn m .workerTick)) t) :
    s.watchdog.holdsLink = true ∧ 0 < s.wired.link.ticks := by
  cases step with
  | @watchdog w l rest clock? h allowed finds heard =>
    obtain ⟨hp, haw⟩ := Watchdog.allows_turn_iff.mp allowed
    simp only [Core.awaits, Bool.and_eq_true] at haw
    refine ⟨Watchdog.holdsLink_iff.mpr ⟨hp, haw.2⟩, ?_⟩
    rw [show l.ticks = _ from Link.ticks_of_heard? heard]
    exact Nat.succ_pos _

/-- The first of the ticks that wait is the one that the clock produced when it had produced as many
as are counted. -/
lemma Run.exists_tick (run : Run (launch config) ms s) (hheld : s.wired.link.held = true)
    (hwaits : 0 < s.wired.link.ticks) :
    ∃ xs now zs r u, ms = xs ++ .tick now :: zs ∧
      xs.countP Move.isTick = (life ms).countP Happening.isBackgroundTick ∧
      Run (launch config) xs r ∧ Step r (.tick now) u := by
  have hlt : (life ms).countP Happening.isBackgroundTick < ms.countP Move.isTick := by
    rw [run.ticks_eq hheld]
    exact Nat.lt_add_of_pos_right hwaits
  obtain ⟨xs, move, zs, rfl, hmove, hxs⟩ := exists_append_of_lt_countP hlt
  cases move with
  | tick now =>
    rw [List.append_cons] at run
    obtain ⟨u, first, -⟩ := run.exists_of_append
    obtain ⟨r, before, step⟩ := first.exists_of_concat
    exact ⟨xs, now, zs, r, u, rfl, hxs, before, step⟩
  | _ => cases hmove

/-- After these moves the clock runs, with an interval as its period, and is due to tick. -/
def TicksUnder (config : HeartbeatConfig) (ms : List Move) (now : ℕ) (n : UInt64) : Prop :=
  ∃ s c, Run (launch config) ms s ∧ s.wired.clock? = some c ∧ (c.timer.tick? now).isSome ∧
    c.timer.isRunning = true ∧ c.timer.period = millis n.toNat

/-- **The clock ticks under the regime that it knows of.**  When the clock ticks, and the link is
held, the last command that it carried out was to start with an interval.  This interval was in
force, while the network was there, at the end of a part of the life in which just those commands
were sent which the clock has carried out. -/
lemma Run.ticksUnder (hv : config.Valid) (run : Run (launch config) ms s) {now : ℕ}
    (step : Step s (.tick now) t) (hheld : s.watchdog.holdsLink = true) :
    ∃ n, TicksUnder config ms now n ∧ (ms.filterMap Move.obeyed?).getLast? = some (.start n) ∧
      ∃ us, us <+: life ms ∧
        (Watchdog.launch config true).sent us = ms.filterMap Move.obeyed? ∧
        ((Watchdog.launch config true).after us).core.regime = ⟨true, n⟩ := by
  obtain ⟨hlives, hs⟩ := run.life_eq
  cases step with
  | @tick w l c c' _ told due ticks =>
    have hrunning : c.timer.isRunning = true := by
      obtain ⟨⟨d, u⟩, hd⟩ := Option.isSome_iff_exists.mp due
      exact Timer.isRunning_eq_true_iff.mpr ⟨d, (Timer.tick?_eq_some_iff.mp hd).1⟩
    have hpace := run.pace_eq rfl
    obtain ⟨n, hlast, hperiod⟩ := Pace.foldl_obey_running (p := Clock.idle.pace) rfl
      ((congrArg Pace.running hpace).symm.trans hrunning)
    -- what the clock has carried out is the first of what the changes of the regime call for
    have hsent := run.obeyed_append_commands hv rfl
    rw [hs] at hheld
    rw [Watchdog.sent_eq_owed hlives hheld] at hsent
    obtain ⟨us, ⟨vs, hus⟩, howed⟩ :=
      Watchdog.exists_owed_eq_of_prefix (hsent ▸ List.prefix_append _ _)
    rw [← hus] at hlives hheld
    have hlu := (Watchdog.lives_append.mp hlives).1
    have hheldu := Watchdog.holdsLink_of_append hlives hheld
    have hregime := Regime.announcement_eq_start_iff.mp
      (Watchdog.announcement_of_getLast?_owed (howed ▸ hlast))
    refine ⟨n, ⟨_, c, run, rfl, due, hrunning, ?_⟩, hlast, us, ⟨vs, hus⟩, ?_, hregime⟩
    · have hc := (Watchdog.consistent_launch hv true).after hv hlu
      have hbound := (hc (Watchdog.holdsLink_iff.mp hheldu).1).bounded.nanosPerMilli_le hv
      rw [hregime] at hbound
      exact (congrArg Pace.period hpace).trans (hperiod.trans (Nat.max_eq_left hbound))
    · rw [Watchdog.sent_eq_owed hlu hheldu, howed]

/-- **A tick that is counted follows the commands that the clock has carried out.**  Whenever the
event loop counts a tick of the background clock, it is the one that the clock produced as the next
after as many as were counted before.  When it was produced the clock ran under an interval, which
the last command it had carried out was to start with; and this interval was in force, while the
network was there, at the end of a part of the life in which just those commands were sent which the
clock had carried out by then.

If the clock had then carried out all commands that were sent before the tick is counted, the
network is there, and the interval is the one in force. -/
theorem counted_tick_follows_commands (valid : config.validate = .ok ())
    (run : Run (launch config) ms s) {m : Moment}
    (counts : Step s (.watchdog (.turn m .workerTick)) t) :
    let w := Watchdog.launch config true
    ∃ xs now zs n, ms = xs ++ .tick now :: zs ∧
      xs.countP Move.isTick = (life ms).countP Happening.isBackgroundTick ∧
      TicksUnder config xs now n ∧
      (xs.filterMap Move.obeyed?).getLast? = some (.start n) ∧
      (∃ us, us <+: life xs ∧ w.sent us = xs.filterMap Move.obeyed? ∧
        (w.after us).core.status.onLine = true ∧ (w.after us).core.status.intervalMs = n) ∧
      (w.sent (life ms) = xs.filterMap Move.obeyed? →
        s.watchdog.core.status.onLine = true ∧ s.watchdog.core.status.intervalMs = n) := by
  have hv := HeartbeatConfig.valid_of_validate valid
  have hal := run.aligned hv
  obtain ⟨hheld, hwaits⟩ := counts.ticks_pos
  obtain ⟨hlives, hs⟩ := run.life_eq
  rw [hs] at hheld
  have hsent := Watchdog.sent_eq_owed hlives hheld
  obtain ⟨xs, now, zs, r, u, rfl, hcount, before, step⟩ :=
    run.exists_tick (hal.held.trans (hs ▸ hheld)) hwaits
  have hr : r.watchdog.holdsLink = true := by
    rw [before.life_eq.2]
    rw [life_append] at hlives hheld
    exact Watchdog.holdsLink_of_append hlives hheld
  obtain ⟨n, hunder, hlast, us, hus, hsentu, hregime⟩ := before.ticksUnder hv step hr
  refine ⟨xs, now, zs, n, rfl, hcount, hunder, hlast, ⟨us, hus, hsentu, ?_⟩, fun hall => ?_⟩
  · exact ⟨congrArg Regime.onLine hregime, congrArg Regime.intervalMs hregime⟩
  · -- nothing was sent since, so that the last command announces the regime in force
    rw [← hall, hsent] at hlast
    have hnow := Regime.announcement_eq_start_iff.mp (Watchdog.announcement_of_getLast?_owed hlast)
    rw [← hs] at hnow
    exact ⟨congrArg Regime.onLine hnow, congrArg Regime.intervalMs hnow⟩

/-- The network comes, and the clock learns of it and ticks. -/
def firstTick : List Move :=
  [.watchdog (.turn ⟨0, .epoch, true⟩ (.signal true)),
    .obey 0 (.start 2000),
    .tick (millis 2000)]

/-- When nothing else happened before the tick is counted, it was produced under the regime in
force. -/
theorem counted_tick_in_time :
    HeartbeatConfig.validate {} = .ok () ∧
      ∃ s t n, Run (launch {}) firstTick s ∧
        Step s (.watchdog (.turn ⟨millis 2000, .epoch, true⟩ .workerTick)) t ∧
        TicksUnder {} (firstTick.take 2) (millis 2000) n ∧
        s.watchdog.core.status.onLine = true ∧ s.watchdog.core.status.intervalMs = n := by
  have r1 := (Run.start (s := launch {})).next (.watchdog rfl rfl rfl)
    (m := .watchdog (.turn ⟨0, .epoch, true⟩ (.signal true)))
  have r2 := r1.next (.obey rfl) (m := .obey 0 (.start 2000))
  have r3 := r2.next (.tick (by decide) rfl) (m := .tick (millis 2000))
  obtain ⟨s, t, run, counts⟩ : ∃ s t, Run (launch {}) firstTick s ∧
      Step s (.watchdog (.turn ⟨millis 2000, .epoch, true⟩ .workerTick)) t :=
    ⟨_, _, r3, .watchdog rfl rfl rfl⟩
  obtain ⟨xs, now, zs, n, hms, -, hunder, -, -, hnow⟩ :=
    counted_tick_follows_commands rfl run counts
  -- there is only one tick
  have hxs : xs = firstTick.take 2 ∧ now = millis 2000 := by
    rcases xs with _ | ⟨a, _ | ⟨b, _ | ⟨x, xs⟩⟩⟩ <;> simp [firstTick] at hms
    obtain ⟨rfl, rfl, rfl, -⟩ := hms
    exact ⟨rfl, rfl⟩
  obtain ⟨rfl, rfl⟩ := hxs
  exact ⟨rfl, _, _, n, run, counts, hunder, hnow rfl⟩

/-- Before the tick is counted another interval is set. -/
def overtaken : List Move :=
  firstTick ++ [.watchdog (.turn ⟨millis 2000, .epoch, true⟩ (.setInterval 5000))]

/-- The tick is counted, and the clock learns of the other interval and ticks again.  Before that
tick is counted the network goes. -/
def overtakenAgain : List Move :=
  overtaken ++
    [.watchdog (.turn ⟨millis 2000, .epoch, true⟩ .workerTick),
      .obey (millis 2000) (.start 5000),
      .tick (millis 7000),
      .watchdog (.turn ⟨millis 7000, .epoch, true⟩ (.signal false))]

/-- **Ticks are overtaken by changes of the regime.**  The first tick is counted when the interval
under which it was produced is no longer in force, and the second when the network has gone; both
changes have been published by then. -/
theorem counted_tick_overtaken :
    TicksUnder {} (firstTick.take 2) (millis 2000) 2000 ∧
    (∃ s t, Run (launch {}) overtaken s ∧
      Step s (.watchdog (.turn ⟨millis 2000, .epoch, true⟩ .workerTick)) t ∧
      s.watchdog.core.published.intervalMs = 5000 ∧
      s.watchdog.core.published.backgroundTicks = 0 ∧
      t.watchdog.core.published.backgroundTicks = 1) ∧
    ∃ s t, Run (launch {}) overtakenAgain s ∧
      Step s (.watchdog (.turn ⟨millis 7000, .epoch, true⟩ .workerTick)) t ∧
      s.watchdog.core.published.onLine = false ∧
      s.watchdog.core.published.backgroundTicks = 1 ∧
      t.watchdog.core.published.backgroundTicks = 2 := by
  have r1 := (Run.start (s := launch {})).next (.watchdog rfl rfl rfl)
    (m := .watchdog (.turn ⟨0, .epoch, true⟩ (.signal true)))
  have r2 := r1.next (.obey rfl) (m := .obey 0 (.start 2000))
  have r3 := r2.next (.tick (by decide) rfl) (m := .tick (millis 2000))
  have r4 := r3.next (.watchdog rfl rfl rfl)
    (m := .watchdog (.turn ⟨millis 2000, .epoch, true⟩ (.setInterval 5000)))
  have r5 := r4.next (.watchdog rfl rfl rfl)
    (m := .watchdog (.turn ⟨millis 2000, .epoch, true⟩ .workerTick))
  have r6 := r5.next (.obey rfl) (m := .obey (millis 2000) (.start 5000))
  have r7 := r6.next (.tick (by decide) rfl) (m := .tick (millis 7000))
  have r8 := r7.next (.watchdog rfl rfl rfl)
    (m := .watchdog (.turn ⟨millis 7000, .epoch, true⟩ (.signal false)))
  exact ⟨⟨_, _, r2, rfl, by decide, by decide, by decide⟩,
    ⟨_, _, r4, .watchdog rfl rfl rfl, rfl, rfl, rfl⟩,
    _, _, r8, .watchdog rfl rfl rfl, rfl, rfl, rfl⟩

end Coupled

end LinkWatch
