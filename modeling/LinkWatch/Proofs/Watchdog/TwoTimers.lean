/-
# Two timers in agreement

The event loop and the background clock run side by side, joined by nothing but the link: the loop
puts commands on one queue while the clock takes them from it in its own time, and for ticks it is
the other way round.  `Coupled.Step` lists everything that either side can do, and a run is any
sequence of such steps.

However far the clock lags behind, the commands that still wait make up for it: carried out in
order they lead to a timer that follows the regime, just as the foreground timer does
(`Coupled.timers_agree`).  The invariant behind it, `Coupled.Aligned`, speaks of all commands
that wait, since any of them may be the next that the clock takes.
-/
import LinkWatch.Proofs.Heartbeat.Pace
import LinkWatch.Proofs.Watchdog.Commands
import LinkWatch.Proofs.Watchdog.Consistency

namespace LinkWatch

/-! ## What the event loop does to the link -/

namespace Link

/-- The link after an effect of the event loop. -/
def perform (l : Link) : Effect → Link
  | .command k =>
    match l.send k with
    | .ok l => l
    | .error _ => l
  | .release => l.drop
  | _ => l

/-- The link after the effects of the event loop. -/
def performAll (l : Link) (es : List Effect) : Link := es.foldl perform l

lemma perform_eq (l : Link) (e : Effect) :
    l.perform e = { l with
      commands := l.commands ++ if l.listening then e.command?.toList else []
      ticks := if e.isRelease then 0 else l.ticks
      held := l.held && !e.isRelease } := by
  obtain ⟨ks, n, held, listening, ticking⟩ := l
  cases e with
  | command k => cases listening <;> simp [perform, send, Effect.command?, Effect.isRelease]
  | _ => simp [perform, drop, Effect.command?, Effect.isRelease]

/-- What the event loop does to the link: commands join the queue, unless the clock takes none,
and the link is held until it is dropped. -/
lemma performAll_eq (l : Link) (es : List Effect) :
    l.performAll es = { l with
      commands := l.commands ++ if l.listening then es.filterMap Effect.command? else []
      ticks := if es.any Effect.isRelease then 0 else l.ticks
      held := l.held && !es.any Effect.isRelease } := by
  induction es generalizing l with
  | nil => simp [performAll]
  | cons e es ih =>
    refine (ih (l.perform e)).trans ?_
    rw [perform_eq]
    cases e <;> cases l.listening <;>
      simp [List.filterMap_cons, Effect.command?, Effect.isRelease]

/-- The link after the event loop looked for what it deals with, if that was there. -/
def heard? (l : Link) : Happening → Option Link
  | .turn _ .workerTick =>
    match l.receive with
    | .tick rest => some rest
    | _ => none
  | .turn _ .workerGone =>
    match l.receive with
    | .gone => some l
    | _ => none
  | _ => some l

/-- A tick changes nothing of the link but the number of ticks. -/
lemma tick_eq (l : Link) : ∃ n, l.tick = { l with ticks := n } := by
  rw [tick]
  split
  · exact ⟨l.ticks + 1, rfl⟩
  · exact ⟨l.ticks, rfl⟩

/-- Looking for something takes at most a tick from the link. -/
lemma heard?_eq_some {l rest : Link} {h : Happening} (hr : l.heard? h = some rest) :
    ∃ n, rest = { l with ticks := n } := by
  unfold heard? at hr
  split at hr
  · split at hr
    next rest' ht =>
      cases hr
      obtain ⟨n, -, hn⟩ := receive_eq_tick ht
      exact ⟨n, hn⟩
    next => cases hr
  · split at hr <;> cases hr
    exact ⟨l.ticks, rfl⟩
  · cases hr
    exact ⟨l.ticks, rfl⟩

end Link

/-- Whether the event loop, when something happens, finds the clock taking commands or not. -/
def Happening.Finds (h : Happening) (listening : Bool) : Prop :=
  match h with
  | .turn m _ | .finish m => m.listening = listening
  | .bind _ => True

/-- A clock at a pace does what a regime asks for. -/
structure Pace.Agrees (p : Pace) (r : Regime) : Prop where
  running : p.running = r.onLine
  period : r.onLine = true → p.period = r.interval

/-- The commands that belong to a change of the regime lead from agreement to agreement. -/
lemma Pace.Agrees.foldl_commands {p : Pace} {r r' : Regime} (h : p.Agrees r)
    (hr' : nanosPerMilli ≤ r'.interval) : ((r.commands r').foldl Pace.obey p).Agrees r' := by
  have hstart : (p.obey (.start r'.intervalMs)).period = r'.interval := Nat.max_eq_left hr'
  rw [Regime.commands]
  split
  next hoff hon => exact ⟨hon.symm, fun _ => hstart⟩
  next hon hon' =>
    split
    next heq =>
      refine ⟨h.running.trans (hon.trans hon'.symm), fun _ => (h.period hon).trans ?_⟩
      rw [Regime.interval, Regime.interval, heq]
    next => exact ⟨hon'.symm, fun _ => hstart⟩
  next hon hoff => exact ⟨hoff.symm, fun h => absurd h (by simp [hoff])⟩
  next hoff hoff' =>
    exact ⟨h.running.trans (hoff.trans hoff'.symm), fun h => absurd h (by simp [hoff'])⟩

/-- A watchdog whose event loop was started, and a background clock. -/
structure Coupled where
  watchdog : Watchdog
  wired : WiredClock

namespace Coupled

/-! ## Steps and runs -/

/-- The two when neither has done anything yet. -/
def launch (config : HeartbeatConfig) : Coupled := ⟨.launch config true, .new⟩

/-- What either side can do. -/
inductive Move where
  /-- Something happens to the watchdog. -/
  | watchdog (h : Happening)
  /-- The clock carries out a command. -/
  | obey (now : ℕ) (k : ClockCommand)
  /-- The clock ticks. -/
  | tick (now : ℕ)
  /-- The clock ends by itself. -/
  | quit
  /-- The clock is stopped from outside. -/
  | abort

namespace Move

/-- What happens to the watchdog in a move. -/
def happening? : Move → Option Happening
  | .watchdog h => some h
  | _ => none

/-- The command that the clock carries out in a move. -/
def obeyed? : Move → Option ClockCommand
  | .obey _ k => some k
  | _ => none

end Move

/-- What happens to the watchdog in the course of moves. -/
def life (ms : List Move) : List Happening := ms.filterMap Move.happening?

/-- A step of either side.  When a command waits and a tick is due as well, the clock is free to
choose. -/
inductive Step : Coupled → Move → Coupled → Prop
  | watchdog {w : Watchdog} {l rest : Link} {clock? : Option Clock} {h : Happening}
      (allowed : w.allows h) (finds : h.Finds l.listening) (heard : l.heard? h = some rest) :
      Step ⟨w, ⟨l, clock?⟩⟩ (.watchdog h)
        ⟨(w.happen h).1, ⟨rest.performAll (w.happen h).2, clock?⟩⟩
  | obey {w : Watchdog} {l rest : Link} {c : Clock} {now : ℕ} {k : ClockCommand}
      (taken : l.take = .command k rest) :
      Step ⟨w, ⟨l, some c⟩⟩ (.obey now k) ⟨w, ⟨rest, (c.step now (.command k)).2⟩⟩
  | tick {w : Watchdog} {l : Link} {c c' : Clock} {now : ℕ} {told : Bool}
      (due : (c.timer.tick? now).isSome) (ticks : c.step now (.due l.held) = (told, some c')) :
      Step ⟨w, ⟨l, some c⟩⟩ (.tick now) ⟨w, ⟨l.tick, some c'⟩⟩
  /-- Nobody hears the tick. -/
  | unheard {w : Watchdog} {l : Link} {c : Clock} {now : ℕ} {told : Bool}
      (ends : c.step now (.due l.held) = (told, none)) :
      Step ⟨w, ⟨l, some c⟩⟩ .quit ⟨w, ⟨l.dropEndpoint, none⟩⟩
  /-- There will be no more commands. -/
  | closed {w : Watchdog} {l : Link} {c : Clock} (taken : l.take = .closed) :
      Step ⟨w, ⟨l, some c⟩⟩ .quit ⟨w, ⟨l.dropEndpoint, none⟩⟩
  | abort {w : Watchdog} {wired : WiredClock} : Step ⟨w, wired⟩ .abort ⟨w, wired.abort⟩

/-- Any sequence of steps. -/
inductive Run (s : Coupled) : List Move → Coupled → Prop
  | start : Run s [] s
  | next {ms : List Move} {m : Move} {t u : Coupled} (run : Run s ms t) (step : Step t m u) :
      Run s (ms ++ [m]) u

variable {config : HeartbeatConfig} {s t u : Coupled} {m : Move} {ms ns : List Move}

lemma Step.run (step : Step s m t) : Run s [m] t := Run.start.next step

/-- A run can be continued by another. -/
lemma Run.trans (run : Run s ms t) (run' : Run t ns u) : Run s (ms ++ ns) u := by
  induction run' with
  | start => rwa [List.append_nil]
  | next _ step ih =>
    rw [← List.append_assoc]
    exact ih.next step

/-- In a turn of the clock it makes one of the steps of its side. -/
lemma step_of_turn? {w : Watchdog} {wired wired' : WiredClock} {now : ℕ} {turn : WiredClock.Turn}
    (h : wired.turn? now = some (turn, wired')) : ∃ m, Step ⟨w, wired⟩ m ⟨w, wired'⟩ := by
  obtain ⟨l, clock?⟩ := wired
  cases clock? with
  | none => cases h
  | some c =>
    simp only [WiredClock.turn?, Option.bind_some] at h
    split at h
    next k rest hk =>
      cases h
      exact ⟨_, .obey hk⟩
    next hk =>
      cases h
      exact ⟨_, .closed hk⟩
    next =>
      split at h
      · cases h
      next hdue =>
        split at h
        next told c' ht =>
          cases h
          exact ⟨_, .tick (Option.isSome_iff_ne_none.mpr (by simpa using hdue)) ht⟩
        next told ht =>
          cases h
          exact ⟨_, .unheard ht⟩

/-! ## The life of the watchdog in a run -/

lemma life_append (xs ys : List Move) : life (xs ++ ys) = life xs ++ life ys :=
  List.filterMap_append

/-- In a run the watchdog lives what happens to it. -/
lemma Run.watchdog_eq (run : Run s ms t) :
    s.watchdog.lives (life ms) ∧ t.watchdog = s.watchdog.after (life ms) := by
  induction run with
  | start => exact ⟨rfl, rfl⟩
  | @next ms m t u run step ih =>
    obtain ⟨hl, ht⟩ := ih
    rw [life_append, Watchdog.lives_append, Watchdog.after_append, ← ht]
    cases step with
    | watchdog allowed => exact ⟨⟨hl, Watchdog.lives_cons.mpr ⟨allowed, rfl⟩⟩, rfl⟩
    | _ => exact ⟨⟨hl, rfl⟩, rfl⟩

lemma Run.life_eq (run : Run (launch config) ms t) :
    (Watchdog.launch config true).lives (life ms) ∧
      t.watchdog = (Watchdog.launch config true).after (life ms) :=
  run.watchdog_eq

lemma Run.consistent (hv : config.Valid) (run : Run (launch config) ms t) :
    t.watchdog.Consistent config := by
  obtain ⟨hl, ht⟩ := run.life_eq
  rw [ht]
  exact (Watchdog.consistent_launch hv true).after hv hl

/-! ## The invariant -/

/-- How the two sides and the link between them agree. -/
structure Aligned (s : Coupled) : Prop where
  held : s.wired.link.held = s.watchdog.holdsLink
  listening : s.wired.link.listening = s.wired.clock?.isSome
  ticking : s.wired.link.ticking = s.wired.clock?.isSome
  /-- The commands that wait lead to what the regime asks for. -/
  agrees : s.wired.link.held = true → ∀ c, s.wired.clock? = some c →
    (s.wired.link.commands.foldl Pace.obey c.pace).Agrees s.watchdog.core.regime

lemma aligned_launch (config : HeartbeatConfig) : (launch config).Aligned where
  held := rfl
  listening := rfl
  ticking := rfl
  agrees := by
    rintro - c hc
    cases hc
    exact ⟨rfl, fun h => by cases h⟩

/-- Once there is no clock, its end of the link is gone, and nothing else is required. -/
lemma aligned_dropEndpoint {w : Watchdog} {l : Link} (h : l.held = w.holdsLink) :
    Aligned ⟨w, ⟨l.dropEndpoint, none⟩⟩ where
  held := h
  listening := rfl
  ticking := rfl
  agrees := by
    rintro - c hc
    cases hc

/-- A step of either side keeps the two aligned. -/
lemma Aligned.step (h : s.Aligned) (ht : t.watchdog.Consistent config) (hv : config.Valid)
    (step : Step s m t) : t.Aligned := by
  cases step with
  | @watchdog w l rest clock? h' allowed finds heard =>
    obtain ⟨n, rfl⟩ := Link.heard?_eq_some heard
    have hheld : (Link.performAll { l with ticks := n } (w.happen h').2).held =
        (w.happen h').1.holdsLink := by
      rw [Link.performAll_eq, Watchdog.holdsLink_happen allowed, ← h.held]
    refine ⟨hheld, ?_, ?_, fun hl c hc => ?_⟩
    · rw [Link.performAll_eq]
      exact h.listening
    · rw [Link.performAll_eq]
      exact h.ticking
    · -- the commands of the turn join those that wait, and lead from the old regime to the new
      subst hc
      rw [hheld, Watchdog.holdsLink_iff] at hl
      obtain ⟨hp, hw⟩ := hl
      have hlisten : l.listening = true := h.listening
      have hl : l.held = true := by
        have hh := Watchdog.holdsLink_happen allowed
        rw [Watchdog.holdsLink_iff.mpr ⟨hp, hw⟩] at hh
        exact h.held.trans (Bool.and_eq_true_iff.mp hh.symm).1
      rw [Link.performAll_eq, if_pos hlisten, Watchdog.commands_happen allowed hp, if_pos hw,
        List.foldl_append]
      exact (h.agrees hl c rfl).foldl_commands ((ht hp).bounded.nanosPerMilli_le hv)
  | @obey w l rest c now k taken =>
    -- the first of the commands that wait is carried out
    obtain ⟨ks, hks, rfl⟩ := Link.take_eq_command_iff.mp taken
    refine ⟨h.held, h.listening, h.ticking, fun hl c' hc => ?_⟩
    cases hc
    have hagrees := h.agrees hl c rfl
    rw [hks, List.foldl_cons] at hagrees
    show (ks.foldl Pace.obey (c.obey now k).pace).Agrees _
    rwa [Clock.pace_obey]
  | @tick w l c c' now told due ticks =>
    obtain ⟨n, hn⟩ := l.tick_eq
    rw [hn]
    refine ⟨h.held, h.listening, h.ticking, fun hl c'' hc => ?_⟩
    cases hc
    show (l.commands.foldl Pace.obey c'.pace).Agrees _
    rw [Clock.pace_of_step_due ticks]
    exact h.agrees hl c rfl
  | unheard => exact aligned_dropEndpoint h.held
  | closed => exact aligned_dropEndpoint h.held
  | abort => exact aligned_dropEndpoint h.held

lemma Run.aligned (hv : config.Valid) (run : Run (launch config) ms t) : t.Aligned := by
  induction run with
  | start => exact aligned_launch config
  | next run step ih => exact ih.step ((run.next step).consistent hv) hv step

/-! ## What follows -/

/-- The link neither loses commands nor changes their order: those that the clock carried out and
those that wait are those that were sent. -/
lemma Run.obeyed_append_commands (hv : config.Valid) (run : Run (launch config) ms t)
    (hc : t.wired.clock?.isSome) :
    ms.filterMap Move.obeyed? ++ t.wired.link.commands =
      (Watchdog.launch config true).sent (life ms) := by
  induction run with
  | start => rfl
  | @next ms m t u run step ih =>
    have hal := run.aligned hv
    rw [List.filterMap_append, life_append, Watchdog.sent_append, ← run.life_eq.2]
    cases step with
    | @watchdog w l rest clock? h allowed finds heard =>
      obtain ⟨n, rfl⟩ := Link.heard?_eq_some heard
      have hlisten : l.listening = true := hal.listening.trans hc
      rw [Link.performAll_eq, if_pos hlisten]
      show ms.filterMap Move.obeyed? ++ [] ++ (l.commands ++ _) =
        (Watchdog.launch config true).sent (life ms) ++ (_ ++ [])
      rw [List.append_nil, List.append_nil, ← List.append_assoc]
      exact congrArg (· ++ _) (ih hc)
    | @obey w l rest c now k taken =>
      obtain ⟨ks, hks, rfl⟩ := Link.take_eq_command_iff.mp taken
      have hq := ih rfl
      rw [hks] at hq
      show ms.filterMap Move.obeyed? ++ [k] ++ ks =
        (Watchdog.launch config true).sent (life ms) ++ []
      rw [List.append_nil, ← hq, List.append_assoc, List.singleton_append]
    | @tick w l c c' now told due ticks =>
      obtain ⟨n, hn⟩ := l.tick_eq
      rw [hn]
      show ms.filterMap Move.obeyed? ++ [] ++ l.commands =
        (Watchdog.launch config true).sent (life ms) ++ []
      rw [List.append_nil, List.append_nil]
      exact ih rfl
    | _ => cases hc

/-- Unless the clock is stopped from outside, it is there and the link is held as long as the event
loop runs. -/
lemma Run.held_of_not_abort (hv : config.Valid) (run : Run (launch config) ms t)
    (ha : Move.abort ∉ ms) (hp : t.watchdog.phase = .running) :
    t.wired.link.held = true ∧ t.wired.clock?.isSome := by
  induction run with
  | start => exact ⟨rfl, rfl⟩
  | @next ms m t u run step ih =>
    have hal := run.aligned hv
    have hal' := (run.next step).aligned hv
    rw [List.mem_append, not_or] at ha
    cases step with
    | @watchdog w l rest clock? h allowed finds heard =>
      obtain ⟨hl, hc⟩ := ih ha.1 (Watchdog.running_of_happen hp)
      refine ⟨hal'.held.trans (Watchdog.holdsLink_iff.mpr ⟨hp, ?_⟩), hc⟩
      have hw := (Watchdog.holdsLink_iff.mp (hal.held.symm.trans hl)).2
      cases h with
      | bind i => exact hw
      | finish m => cases hp
      | turn m i =>
        obtain ⟨c', hc', ho⟩ := Core.step_outcome m w.core i
        have hm : m.listening = true := finds.trans (hal.listening.trans hc)
        show (w.core.step m i).1.workerHeld = true
        rw [hc', Core.workerHeld_shown]
        refine ho.workerHeld_or hw hm ?_
        rintro rfl
        -- the clock is there, so that it cannot be found gone
        have hgone : l.receive = .gone := by
          simp only [Link.heard?] at heard
          split at heard
          · assumption
          · cases heard
        have hticking := Link.ticking_eq_false_of_receive hgone
        rw [show l.ticking = true from hal.ticking.trans hc] at hticking
        cases hticking
    | obey taken =>
      obtain ⟨ks, -, rfl⟩ := Link.take_eq_command_iff.mp taken
      exact ⟨(ih ha.1 hp).1, rfl⟩
    | @tick w l c c' now told due ticks =>
      obtain ⟨n, hn⟩ := l.tick_eq
      rw [hn]
      exact ⟨(ih ha.1 hp).1, rfl⟩
    | unheard ends =>
      have hl := (ih ha.1 hp).1
      rw [show _ = false from Clock.heard_eq_false_of_step_due ends] at hl
      cases hl
    | closed taken =>
      have hl := (ih ha.1 hp).1
      rw [show _ = false from Link.held_eq_false_of_take taken] at hl
      cases hl
    | abort => exact absurd (List.mem_singleton.mpr rfl) ha.2

/-- **The two timers agree, and the clock is told what it has to know.**  In any run of the event
loop and the background clock that starts with a valid configuration

* while the watchdog holds the link, the commands that wait, carried out in order at whatever
  instants, lead to a timer that runs just while the network is there, and then with the interval
  in force as its period;
* while the watchdog holds the link, the commands that were sent are those that belong to the
  changes of the regime; until the loop ends they are in any case the first of those, the first
  command is to start, and no command is followed by the same: after a stop comes a start, and a
  start that follows a start names another interval;
* as long as there is a clock, the commands that it carried out and those that wait are those that
  were sent;
* unless the clock is stopped from outside, it is there and the link is held until the loop
  ends. -/
theorem timers_agree (valid : config.validate = .ok ()) (run : Run (launch config) ms t) :
    let status := t.watchdog.core.status
    let sent := (Watchdog.launch config true).sent (life ms)
    let owed := (Watchdog.launch config true).owed (life ms)
    (t.wired.link.held = true →
      (∀ c, t.wired.clock? = some c →
        ∀ orders : List (ℕ × ClockCommand), orders.map Prod.snd = t.wired.link.commands →
          (c.obeyAll orders).timer.isRunning = status.onLine ∧
          (status.onLine = true →
            (c.obeyAll orders).timer.period = millis status.intervalMs.toNat)) ∧
      sent = owed) ∧
    (t.watchdog.phase = .running →
      sent <+: owed ∧ (∀ k, sent.head? = some k → k ≠ .stop) ∧ sent.IsChain (· ≠ ·)) ∧
    (t.wired.clock?.isSome →
      ms.filterMap Move.obeyed? ++ t.wired.link.commands = sent) ∧
    (Move.abort ∉ ms → t.watchdog.phase = .running →
      t.wired.link.held = true ∧ t.wired.clock?.isSome) := by
  have hv := HeartbeatConfig.valid_of_validate valid
  have hal := run.aligned hv
  obtain ⟨hl, hw⟩ := run.life_eq
  have hsent := Watchdog.sent_prefix_owed hl
  refine ⟨fun hheld => ⟨fun c hc orders ho => ?_, ?_⟩, fun hp => ?_,
    run.obeyed_append_commands hv, run.held_of_not_abort hv⟩
  · have hagrees := hal.agrees hheld c hc
    rw [← ho, ← Clock.pace_obeyAll] at hagrees
    exact ⟨hagrees.running, hagrees.period⟩
  · rw [hal.held, hw] at hheld
    exact (hsent (Watchdog.holdsLink_iff.mp hheld).1).2 hheld
  · rw [hw] at hp
    obtain ⟨hpre, -⟩ := hsent hp
    -- the announcement of the first regime is to stop
    have howed := (Watchdog.launch config true).isChain_owed (life ms)
    have hchain := howed.prefix ((List.prefix_cons_inj ClockCommand.stop).mpr hpre)
    refine ⟨hpre, fun k hk => ?_, hchain.tail⟩
    obtain ⟨ks, hks⟩ := List.head?_eq_some_iff.mp hk
    rw [hks] at hchain
    exact (List.isChain_cons_cons.mp hchain).1.symm

/-- The network comes, the clock learns of it a second later, and then another interval is asked
for, of which the clock does not know yet. -/
def lagging : List Move :=
  [.watchdog (.turn ⟨0, .epoch, true⟩ (.signal true)),
    .obey (millis 1000) (.start 2000),
    .watchdog (.turn ⟨millis 1500, .epoch, true⟩ (.setInterval 5000))]

theorem timers_agree_lagging :
    HeartbeatConfig.validate {} = .ok () ∧
      ∃ c l w, Run (launch {}) lagging ⟨w, ⟨l, some c⟩⟩ ∧ l.held = true ∧
        l.commands = [.start 5000] ∧ c.timer.period = millis 2000 ∧
        w.core.status.intervalMs = 5000 ∧
        (c.obeyAll [(millis 3000, .start 5000)]).timer.period = millis 5000 := by
  have r1 := (Run.start (s := launch {})).next (.watchdog rfl rfl rfl)
    (m := .watchdog (.turn ⟨0, .epoch, true⟩ (.signal true)))
  have r2 := r1.next (.obey rfl) (m := .obey (millis 1000) (.start 2000))
  have run := r2.next (.watchdog rfl rfl rfl)
    (m := .watchdog (.turn ⟨millis 1500, .epoch, true⟩ (.setInterval 5000)))
  have hagree := ((timers_agree rfl run).1 rfl).1 _ rfl [(millis 3000, .start 5000)] rfl
  exact ⟨rfl, _, _, _, run, rfl, rfl, by decide, rfl, hagree.2 rfl⟩

end Coupled

end LinkWatch
