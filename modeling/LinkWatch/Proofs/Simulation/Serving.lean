/-
# What is served at one time

When nothing comes from outside, a world in virtual time is busy with its two timers only: the
background clock carries out commands and ticks, the event loop counts its ticks and hands
heartbeats to the channel, and the channel takes them.  `World.Serves` lists all this.

None of it can go on for long at one time, since each of these turns makes the burden of what is
left to be done smaller (`World.Serves.burden_lt`).
-/
import LinkWatch.Proofs.Simulation.Burst
import LinkWatch.Proofs.Watchdog.Timely

namespace LinkWatch

namespace Simulation.World

variable {config : HeartbeatConfig} {w w' : World} {i : Incident}

/-! ## A turn, written out -/

lemma exists_perform_eq (e : Effect) (w : World) :
    ∃ observed, w.perform e = { w with
      clock.link := w.clock.link.perform e
      sending? := if e.isEmit then some ⟨w.now, w.now + w.delay, w.failure?⟩ else w.sending?
      observed } := by
  cases e with
  | command k =>
    refine ⟨w.observed, ?_⟩
    unfold perform Link.perform
    cases h : w.clock.link.send k <;> simp [h, Effect.isEmit]
  | notice n =>
    unfold perform tell
    dsimp only
    split <;> exact ⟨_, rfl⟩
  | _ => exact ⟨_, rfl⟩

/-- What the event loop wants done concerns the link, the heartbeat that is sent, and what is
observed. -/
lemma exists_performAll_eq (es : List Effect) (w : World) :
    ∃ observed, w.performAll es = { w with
      clock.link := w.clock.link.performAll es
      sending? := if es.any Effect.isEmit then some ⟨w.now, w.now + w.delay, w.failure?⟩
        else w.sending?
      observed } := by
  induction es generalizing w with
  | nil => exact ⟨w.observed, rfl⟩
  | cons e es ih =>
    obtain ⟨o, ho⟩ := exists_perform_eq e w
    obtain ⟨o', ho'⟩ := ih (w.perform e)
    refine ⟨o', ho'.trans ?_⟩
    rw [ho, List.any_cons]
    cases e.isEmit <;> cases es.any Effect.isEmit <;> rfl

/-- A turn of the event loop: the watchdog goes on, the background clock is told of a change of the
regime, and a tick hands a heartbeat to the channel. -/
lemma exists_turn_eq (ha : w.watchdog.allows (.turn (w.moment w.now) i)) (hi : i ≠ .workerGone)
    (hheld : w.watchdog.core.workerHeld = true) (hlink : w.clock.link.listening = true) :
    ∃ observed, w.turn i = { w with
      watchdog := (w.watchdog.happen (.turn (w.moment w.now) i)).1
      clock.link.commands := w.clock.link.commands ++
        w.watchdog.core.regime.commands (w.watchdog.core.regime.after w.watchdog.core.config i)
      sending? := if (Happening.turn (w.moment w.now) i).isTick then
        some ⟨w.now, w.now + w.delay, w.failure?⟩ else w.sending?
      observed } := by
  obtain ⟨hp, haw⟩ := Watchdog.allows_turn_iff.mp ha
  let es := (w.watchdog.happen (.turn (w.moment w.now) i)).2
  have hheld' : (w.watchdog.happen (.turn (w.moment w.now) i)).1.core.workerHeld = true := by
    obtain ⟨c', hc', ho⟩ := Core.step_outcome (w.moment w.now) w.watchdog.core i
    show (w.watchdog.core.step (w.moment w.now) i).1.workerHeld = true
    rw [hc', Core.workerHeld_shown]
    exact ho.workerHeld_or hheld hlink hi
  have hregime := Watchdog.regime_happen w.watchdog (.turn (w.moment w.now) i)
  have hcommands : es.filterMap Effect.command? = w.watchdog.core.regime.commands
      (w.watchdog.core.regime.after w.watchdog.core.config i) := by
    rw [Watchdog.commands_happen ha hp, if_pos hheld', hregime]
    rfl
  have hrelease : es.any Effect.isRelease = false := by
    have hbefore : w.watchdog.holdsLink = true := Watchdog.holdsLink_iff.mpr ⟨hp, hheld⟩
    have hafter : (w.watchdog.happen (.turn (w.moment w.now) i)).1.holdsLink = true :=
      Watchdog.holdsLink_iff.mpr ⟨hp, hheld'⟩
    rw [Watchdog.holdsLink_happen ha, hbefore, Bool.true_and] at hafter
    simpa using hafter
  have hemit : es.any Effect.isEmit = (Happening.turn (w.moment w.now) i).isTick := by
    rw [Bool.eq_iff_iff, ← Watchdog.emit_mem_happen_iff ha, List.any_eq_true]
    constructor
    · rintro ⟨e, he, hemit⟩
      cases e <;> first | exact he | cases hemit
    · exact fun he => ⟨_, he, rfl⟩
  obtain ⟨o, ho⟩ := exists_performAll_eq es { w with
    watchdog := (w.watchdog.happen (.turn (w.moment w.now) i)).1 }
  refine ⟨o, Eq.trans ho ?_⟩
  rw [Link.performAll_eq, hcommands, hrelease, hemit]
  simp [hlink]

/-- A turn that leaves the regime as it is tells the background clock nothing. -/
lemma exists_turn_eq_of_kept (ha : w.watchdog.allows (.turn (w.moment w.now) i))
    (hi : i ≠ .workerGone) (hheld : w.watchdog.core.workerHeld = true)
    (hlink : w.clock.link.listening = true)
    (hkept : w.watchdog.core.regime.after w.watchdog.core.config i = w.watchdog.core.regime) :
    ∃ observed, w.turn i = { w with
      watchdog := (w.watchdog.happen (.turn (w.moment w.now) i)).1
      sending? := if (Happening.turn (w.moment w.now) i).isTick then
        some ⟨w.now, w.now + w.delay, w.failure?⟩ else w.sending?
      observed } := by
  obtain ⟨o, ho⟩ := exists_turn_eq ha hi hheld hlink
  rw [hkept, Regime.commands_self, List.append_nil] at ho
  exact ⟨o, ho⟩

/-! ## What can be done at one time -/

/-- Nothing from outside waits for the event loop, and the channel takes heartbeats at once. -/
structure Calm (w : World) : Prop where
  requests : w.watchdog.requests = []
  signals? : w.signals? = some {}
  /-- The event loop has read all events of the server. -/
  listens : ∃ id, w.Listens id w.channel.inbound.sent
  sound : w.channel.inbound.Sound inboundBuffer
  connected : w.channel.connected = true
  delay : w.delay = 0
  failure? : w.failure? = none

/-- The event loop and the background clock are at work, the link between them is in place, and
neither timer is late. -/
structure Works (config : HeartbeatConfig) (w : World) : Prop where
  running : w.watchdog.phase = .running
  consistent : w.watchdog.core.Consistent config
  workerHeld : w.watchdog.core.workerHeld = true
  held : w.clock.link.held = true
  listening : w.clock.link.listening = true
  ticking : w.clock.link.ticking = true
  clock : ∃ c, w.clock.clock? = some c ∧ c.timer.Timely (millis w.now)
  timer : w.watchdog.core.timer.Timely (millis w.now)
  sends : w.sending?.isSome = w.watchdog.core.emitting
  arrives : ∀ s, w.sending? = some s → s.due ≤ w.now ∧ s.failure? = none

/-- What can be done at the present time when nothing comes from outside: the world afterwards. -/
inductive Serves (w : World) : World → Prop
  /-- The background clock carries out a command. -/
  | obeys {k : ClockCommand} {ks : List ClockCommand} {c : Clock} {observed : List Observation}
      (waits : w.clock.link.commands = k :: ks) (present : w.clock.clock? = some c) :
      Serves w { w with
        clock.link.commands := ks
        clock.clock? := some (c.obey (millis w.now) k)
        observed }
  /-- The background clock ticks. -/
  | ticks {c : Clock} {d : ℕ} {t : Timer} {observed : List Observation}
      (present : w.clock.clock? = some c) (due : c.timer.tick? (millis w.now) = some (d, t)) :
      Serves w { w with
        clock.link.ticks := w.clock.link.ticks + 1
        clock.clock? := some ⟨t⟩
        observed }
  /-- The channel takes the heartbeat that is sent. -/
  | takes {observed : List Observation}
      (allowed : w.watchdog.allows (.turn (w.moment w.now) (.emitted (.ok ())))) :
      Serves w { w with
        watchdog := (w.watchdog.happen (.turn (w.moment w.now) (.emitted (.ok ())))).1
        channel.history :=
          ⟨Event.heartbeat, none, (w.moment w.now).wall⟩ :: w.channel.history
        sending? := none
        observed }
  /-- The event loop counts a tick of the background clock. -/
  | counts {n : ℕ} {observed : List Observation} (waits : w.clock.link.ticks = n + 1)
      (allowed : w.watchdog.allows (.turn (w.moment w.now) .workerTick)) :
      Serves w { w with
        watchdog := (w.watchdog.happen (.turn (w.moment w.now) .workerTick)).1
        clock.link.ticks := n
        observed }
  /-- The event loop hands a heartbeat to the channel. -/
  | begins {observed : List Observation}
      (allowed : w.watchdog.allows (.turn (w.moment w.now) .due)) :
      Serves w { w with
        watchdog := (w.watchdog.happen (.turn (w.moment w.now) .due)).1
        sending? := some ⟨w.now, w.now + w.delay, w.failure?⟩
        observed }

lemma signalTurn?_eq_none (h : w.signals? = some {}) : w.signalTurn? = none := by
  simp [signalTurn?, h]

lemma inboundTurn?_eq_none {id : ℕ} (hl : w.Listens id w.channel.inbound.sent)
    (hs : w.channel.inbound.Sound inboundBuffer) : w.inboundTurn? = none := by
  have hnothing := arrivals_sendAll hs []
  rcases hl.offer?_cases hs.closed with ⟨hnone, -⟩ | ⟨i, next, -, hsome⟩
  · exact inboundTurn?_eq_none_iff.mpr hnone
  · cases hsome.symm.trans hnothing

lemma requestTurn?_eq_none (h : w.watchdog.requests = []) : w.requestTurn? = none := by
  rw [requestTurn?, h]

/-- A turn of the background clock carries out a command or ticks. -/
lemma Works.serves_of_clockTurn? (h : w.Works config) (hturn : w.clockTurn? = some w') :
    w.Serves w' := by
  obtain ⟨⟨turn, wired⟩, hwired, hw'⟩ := Option.map_eq_some_iff.mp hturn
  obtain ⟨c, hc, -⟩ := h.clock
  obtain ⟨observed, rfl⟩ : ∃ observed, w' = { w with clock := wired, observed } := by
    rw [← hw']
    dsimp only
    split <;> exact ⟨_, rfl⟩
  rw [WiredClock.turn?, hc, Option.bind_some] at hwired
  split at hwired
  next k rest hk =>
    obtain ⟨ks, hks, rfl⟩ := Link.take_eq_command_iff.mp hk
    cases hwired
    exact .obeys hks hc
  next hk =>
    have hheld := Link.held_eq_false_of_take hk
    rw [h.held] at hheld
    cases hheld
  next =>
    split at hwired
    · cases hwired
    next hdue =>
      cases ht : c.timer.tick? (millis w.now) with
      | none => simp [ht] at hdue
      | some p =>
        obtain ⟨d, t⟩ := p
        have htick : w.clock.link.tick =
            { w.clock.link with ticks := w.clock.link.ticks + 1 } := if_pos h.held
        have hstep : c.step (millis w.now) (.due w.clock.link.held) = (true, some ⟨t⟩) := by
          simp [Clock.step, ht, h.held]
        rw [hstep, htick] at hwired
        cases hwired
        exact .ticks hc ht

/-- The channel takes a heartbeat. -/
lemma Calm.exists_deliver_eq (h : w.Calm) {s : Sending} (hs : s.failure? = none)
    (ha : w.watchdog.allows (.turn (w.moment w.now) (.emitted (.ok ()))))
    (hheld : w.watchdog.core.workerHeld = true) (hlink : w.clock.link.listening = true) :
    ∃ observed, w.deliver s = { w with
      watchdog := (w.watchdog.happen (.turn (w.moment w.now) (.emitted (.ok ())))).1
      channel.history := ⟨Event.heartbeat, none, (w.moment w.now).wall⟩ :: w.channel.history
      sending? := none
      observed } := by
  let taken : World := { w with
    channel.history := ⟨Event.heartbeat, none, (w.moment w.now).wall⟩ :: w.channel.history
    sending? := none
    observed := .heartbeat s.begun none :: .log (.emitted Event.heartbeat) :: w.observed }
  have hdeliver : w.deliver s = taken.turn (.emitted (.ok ())) := by
    have hemit : ∀ time, w.channel.emit time Event.heartbeat none =
        .ok { w.channel with history := ⟨Event.heartbeat, none, time⟩ :: w.channel.history } :=
      fun time => if_pos h.connected
    simp only [deliver, hs, hemit]
    rfl
  obtain ⟨o, ho⟩ := @exists_turn_eq_of_kept taken _ ha (by simp) hheld hlink rfl
  exact ⟨o, hdeliver.trans ho⟩

/-- A turn of the event loop deals with the answer of the channel or with one of the timers. -/
lemma Works.serves_of_loopTurn? (h : w.Works config) (hcalm : w.Calm)
    (hturn : w.loopTurn? = some w') : w.Serves w' := by
  rw [loopTurn?, if_neg (by simp [h.running])] at hturn
  have hsends := h.sends
  cases hs : w.sending? with
  | some s =>
    obtain ⟨hdue, hfailure⟩ := h.arrives s hs
    rw [hs] at hturn hsends
    have ha : w.watchdog.allows (.turn (w.moment w.now) (.emitted (.ok ()))) :=
      Watchdog.allows_turn_iff.mpr ⟨h.running, hsends.symm⟩
    obtain ⟨o, ho⟩ := hcalm.exists_deliver_eq hfailure ha h.workerHeld h.listening
    rw [← Option.some.inj ((if_pos hdue).symm.trans hturn), ho]
    exact .takes ha
  | none =>
    rw [hs] at hturn hsends
    obtain ⟨id, hl⟩ := hcalm.listens
    simp only [signalTurn?_eq_none hcalm.signals?, inboundTurn?_eq_none hl hcalm.sound,
      requestTurn?_eq_none hcalm.requests, Option.none_or] at hturn
    have hidle : w.watchdog.core.emitting = false := hsends.symm
    rcases Option.or_eq_some_iff.mp hturn with hturn | ⟨-, hturn⟩
    · rw [workerTurn?, if_pos h.workerHeld] at hturn
      have ha : w.watchdog.allows (.turn (w.moment w.now) .workerTick) :=
        Watchdog.allows_turn_iff.mpr ⟨h.running, by simp [Core.awaits, hidle, h.workerHeld]⟩
      split at hturn
      next rest hreceive =>
        obtain ⟨n, hn, rfl⟩ := Link.receive_eq_tick hreceive
        let taken : World := { w with clock.link.ticks := n }
        obtain ⟨o, ho⟩ := @exists_turn_eq_of_kept taken _ ha (by simp) h.workerHeld h.listening rfl
        obtain rfl : taken.turn .workerTick = w' := Option.some.inj hturn
        rw [ho]
        exact .counts hn ha
      next hreceive =>
        have hticking := Link.ticking_eq_false_of_receive hreceive
        rw [h.ticking] at hticking
        cases hticking
      next => cases hturn
    · rw [timerTurn?] at hturn
      split at hturn
      next hdue =>
        have ha : w.watchdog.allows (.turn (w.moment w.now) .due) :=
          Watchdog.allows_turn_iff.mpr ⟨h.running, by
            simp only [Core.awaits, hidle]
            exact hdue⟩
        obtain ⟨o, ho⟩ := exists_turn_eq_of_kept ha (by simp) h.workerHeld h.listening rfl
        rw [← Option.some.inj hturn, ho]
        exact .begins ha
      next => cases hturn

/-- All that can be done at the present time. -/
lemma Works.serves (h : w.Works config) (hcalm : w.Calm)
    (hturn : w.clockTurn?.or w.loopTurn? = some w') : w.Serves w' := by
  rcases Option.or_eq_some_iff.mp hturn with hturn | ⟨-, hturn⟩
  · exact h.serves_of_clockTurn? hturn
  · exact h.serves_of_loopTurn? hcalm hturn

/-! ## What it leaves as it is -/

/-- Nothing of this disturbs the calm. -/
lemma Serves.calm (hs : w.Serves w') (h : w.Calm) : w'.Calm := by
  obtain ⟨id, hl⟩ := h.listens
  cases hs <;>
    exact ⟨h.requests, h.signals?, ⟨id, hl.source, hl.subscription?, hl.position?⟩, h.sound,
      h.connected, h.delay, h.failure?⟩

/-- After a turn of the event loop it is still at work. -/
lemma Works.turn (h : w.Works config) (hcalm : w.Calm) (hv : config.Valid)
    (ha : w.watchdog.allows (.turn (w.moment w.now) i)) (hi : i ≠ .workerGone)
    (hwatchdog : w'.watchdog = (w.watchdog.happen (.turn (w.moment w.now) i)).1)
    (hlink : ∃ ks n, w'.clock = { w.clock with
      link.commands := ks
      link.ticks := n })
    (hsending : w'.sending? = if (Happening.turn (w.moment w.now) i).isTick then
      some ⟨w.now, w.now + w.delay, w.failure?⟩ else none)
    (hnow : w'.now = w.now) : w'.Works config := by
  obtain ⟨ks, n, hlink⟩ := hlink
  have hp := (Watchdog.allows_turn_iff.mp ha).1
  have hheld : (w.watchdog.core.step (w.moment w.now) i).1.workerHeld = true := by
    obtain ⟨c', hc', ho⟩ := Core.step_outcome (w.moment w.now) w.watchdog.core i
    rw [hc', Core.workerHeld_shown]
    exact ho.workerHeld_or h.workerHeld h.listening hi
  have hemitting := Watchdog.emitting_turn ha
  refine ⟨?_, ?_, ?_, ?_, ?_, ?_, ?_, ?_, ?_, ?_⟩
  · rw [hwatchdog]
    exact hp
  · rw [hwatchdog]
    exact h.consistent.step hv _ i
  · rw [hwatchdog]
    exact hheld
  · rw [hlink]
    exact h.held
  · rw [hlink]
    exact h.listening
  · rw [hlink]
    exact h.ticking
  · rw [hlink, hnow]
    exact h.clock
  · rw [hwatchdog, hnow]
    exact Watchdog.timely_happen hv h.consistent ha h.timer
  · rw [hwatchdog, hemitting, hsending]
    cases (Happening.turn (w.moment w.now) i).isTick <;> rfl
  · intro s hs
    rw [hsending] at hs
    split at hs
    · obtain rfl := Option.some.inj hs
      exact ⟨by rw [hnow, hcalm.delay]; exact Nat.le_refl _, hcalm.failure?⟩
    · cases hs

/-- Whatever is done, the event loop and the background clock are still at work. -/
lemma Serves.works (hs : w.Serves w') (h : w.Works config) (hcalm : w.Calm) (hv : config.Valid) :
    w'.Works config := by
  cases hs with
  | obeys waits present =>
    exact { h with clock := ⟨_, rfl, (Clock.ahead_obey _ _ _).timely⟩ }
  | @ticks c d t observed present due =>
    obtain ⟨c', hc', htimely⟩ := h.clock
    obtain rfl : c = c' := Option.some.inj (present.symm.trans hc')
    exact { h with clock := ⟨_, rfl, (htimely.tick due).timely⟩ }
  | takes allowed => exact h.turn hcalm hv allowed (by simp) rfl ⟨_, _, rfl⟩ rfl rfl
  | counts waits allowed =>
    have hidle : w.sending? = none := by
      have haw := (Watchdog.allows_turn_iff.mp allowed).2
      have hsends := h.sends
      cases hsending : w.sending? with
      | none => rfl
      | some s => simp_all [Core.awaits]
    exact h.turn hcalm hv allowed (by simp) rfl ⟨_, _, rfl⟩ hidle rfl
  | begins allowed => exact h.turn hcalm hv allowed (by simp) rfl ⟨_, _, rfl⟩ rfl rfl

/-! ## How long it goes on -/

/-- How many turns are left at the present time, at most. -/
def burden (w : World) : ℕ :=
  w.clock.link.commands.length + w.clock.link.ticks + w.sending?.isSome.toNat +
    2 * (w.clock.clock?.map fun c => c.timer.due (millis w.now)).getD 0 +
    2 * w.watchdog.core.timer.due (millis w.now)

/-- **Whatever is done, less is left to be done.** -/
lemma Serves.burden_lt (hs : w.Serves w') (h : w.Works config) : w'.burden < w.burden := by
  cases hs with
  | @obeys k ks c observed waits present =>
    have hdue := (Clock.ahead_obey (millis w.now) c k).due_eq_zero
    simp only [burden, waits, hdue, List.length_cons, Option.map_some, Option.getD_some]
    omega
  | @ticks c d t observed present due =>
    obtain ⟨c', hc', htimely⟩ := h.clock
    obtain rfl : c = c' := Option.some.inj (present.symm.trans hc')
    have hdue : c.timer.due (millis w.now) = 1 := Timer.due_eq_one (by rw [due]; rfl)
    have hdue' := (htimely.tick due).due_eq_zero
    simp only [burden, present, hdue, hdue', Option.map_some, Option.getD_some]
    omega
  | takes allowed =>
    have hsends : w.sending?.isSome = true :=
      h.sends.trans (Watchdog.allows_turn_iff.mp allowed).2
    simp only [burden, Watchdog.timer_happen_of_kept (i := .emitted (.ok ())) (by simp) rfl, hsends,
      Option.isSome_none, Bool.toNat_true, Bool.toNat_false]
    omega
  | counts waits allowed =>
    simp only [burden, Watchdog.timer_happen_of_kept (i := .workerTick) (by simp) rfl, waits]
    omega
  | begins allowed =>
    obtain ⟨d, t, ht⟩ := Watchdog.tick_due_of_allows allowed
    have hdue : w.watchdog.core.timer.due (millis w.now) = 1 :=
      Timer.due_eq_one (by rw [show w.watchdog.core.timer.tick? (millis w.now) = _ from ht]; rfl)
    have hdue' : _ = 0 := (Watchdog.ahead_happen_due allowed h.timer).due_eq_zero
    have hmoment : (w.moment w.now).now = millis w.now := rfl
    rw [hmoment] at hdue'
    simp only [burden, hdue, hdue', Option.isSome_some, Bool.toNat_true]
    omega

/-- Beyond what waits in the link, these are a few at most. -/
lemma burden_le (w : World) :
    w.burden ≤ w.clock.link.commands.length + w.clock.link.ticks + 5 := by
  have hclock : (w.clock.clock?.map fun c => c.timer.due (millis w.now)).getD 0 ≤ 1 := by
    cases w.clock.clock? with
    | none => exact Nat.zero_le 1
    | some c => exact c.timer.due_le_one _
  have htimer := w.watchdog.core.timer.due_le_one (millis w.now)
  have hsending := Bool.toNat_le w.sending?.isSome
  rw [burden]
  omega

/-- Nothing is left to be done at the present time. -/
structure Quiet (w : World) : Prop where
  commands : w.clock.link.commands = []
  sending? : w.sending? = none
  clock : ∀ c, w.clock.clock? = some c → c.timer.Ahead (millis w.now)
  timer : w.watchdog.core.timer.Ahead (millis w.now)

/-- A background clock without commands waits for its next tick. -/
lemma clockTurn?_eq_none_iff (hheld : w.clock.link.held = true) :
    w.clockTurn? = none ↔ ∀ c, w.clock.clock? = some c →
      w.clock.link.commands = [] ∧ c.timer.Ahead (millis w.now) := by
  rw [clockTurn?, Option.map_eq_none_iff, WiredClock.turn?]
  cases w.clock.clock? with
  | none => simp
  | some c =>
    rw [Option.bind_some, Link.take]
    cases w.clock.link.commands with
    | cons k ks => simp
    | nil =>
      simp only [hheld, if_true, Option.some.injEq, forall_eq', true_and]
      rw [← Timer.tick?_eq_none_iff]
      cases ht : c.timer.tick? (millis w.now) <;> simp [Clock.step, ht]

lemma Works.quiet (h : w.Works config) (hnone : w.clockTurn?.or w.loopTurn? = none) : w.Quiet := by
  obtain ⟨hclock, hloop⟩ := Option.or_eq_none_iff.mp hnone
  rw [clockTurn?_eq_none_iff h.held] at hclock
  obtain ⟨c, hc, -⟩ := h.clock
  rw [loopTurn?, if_neg (by simp [h.running])] at hloop
  have hsending : w.sending? = none := by
    cases hs : w.sending? with
    | none => rfl
    | some s =>
      rw [hs] at hloop
      simp [(h.arrives s hs).1] at hloop
  rw [hsending] at hloop
  have htimer : w.timerTurn? = none := by
    simp only [Option.or_eq_none_iff] at hloop
    exact hloop.2.2.2.2
  refine ⟨(hclock c hc).1, hsending, fun c hc => (hclock c hc).2, ?_⟩
  rw [timerTurn?] at htimer
  split at htimer
  · cases htimer
  next hdue => exact Timer.tick?_eq_none_iff.mp (by simpa using hdue)

end Simulation.World

end LinkWatch
