/-
# The background clock between its queues

Commands wait in a queue until the clock takes them, and time may pass before every turn of the
clock, whatever there is for it to do.  When a command waits and a tick is due as well, the clock
is free to choose.  `Clockwork` takes this apart into steps and records what the clock does in its
turns, each with its instant; a turn of `WiredClock` is one of these steps
(`Clockwork.turn_alone`).

What was recorded tells when the next tick may come at the earliest (`Clockwork.due?`): one period
after a command to start, and one more period after every tick since.  The timer of the clock is
never ahead of this (`Clock.Follows`), from which all that is said of the ticks follows
(`Clockwork.ticks_as_told`).
-/
import LinkWatch.Heartbeat.Clock
import LinkWatch.Proofs.Heartbeat.Deadline
import LinkWatch.Proofs.Steps

namespace LinkWatch

/-- The period of a clock that was told to start: the interval, but at least a millisecond. -/
def Clock.periodOf (intervalMs : UInt64) : ℕ := millis (max 1 intervalMs.toNat)

/-- The command that was carried out in a turn. -/
def WiredClock.Turn.command? : WiredClock.Turn → Option ClockCommand
  | .obeyed k => some k
  | _ => none

/-- A background clock between its two queues, with what it has done. -/
structure Clockwork where
  /-- There is none any more when it has ended. -/
  clock? : Option Clock := some .idle
  now : ℕ := 0
  /-- The commands that wait for the clock. -/
  waiting : List ClockCommand := []
  /-- Whether more commands can come. -/
  commanded : Bool := true
  /-- Whether anyone receives the ticks. -/
  heard : Bool := true
  /-- The turns of the clock, each with its instant, in this order. -/
  log : List (ℕ × WiredClock.Turn) := []

namespace Clockwork

/-- A step of the clock, or around it. -/
inductive Move where
  /-- Time passes. -/
  | wait (span : ℕ)
  /-- A command comes. -/
  | send (k : ClockCommand)
  /-- There will be no more commands. -/
  | close
  /-- Nobody receives the ticks any more. -/
  | deafen
  /-- The clock takes the next command. -/
  | obey
  /-- The clock finds that there is no command left. -/
  | leave
  /-- The clock takes the tick that is due. -/
  | tick

/-- The command that comes in a step. -/
def Move.sent? : Move → Option ClockCommand
  | .send k => some k
  | _ => none

/-- What comes of a step, if it can be taken. -/
def next? (s : Clockwork) : Move → Option Clockwork
  | .wait span => some { s with now := s.now + span }
  | .send k => if s.commanded then some { s with waiting := s.waiting ++ [k] } else none
  | .close => some { s with commanded := false }
  | .deafen => some { s with heard := false }
  | .obey =>
    match s.clock?, s.waiting with
    | some c, k :: rest =>
      some { s with
        clock? := (c.step s.now (.command k)).2, waiting := rest,
        log := s.log ++ [(s.now, .obeyed k)] }
    | _, _ => none
  | .leave =>
    match s.clock?, s.waiting with
    | some c, [] =>
      if s.commanded then none
      else some { s with clock? := (c.step s.now .closed).2, log := s.log ++ [(s.now, .ended)] }
    | _, _ => none
  | .tick =>
    match s.clock? with
    | some c =>
      if (c.timer.tick? s.now).isSome then
        let (told, clock?) := c.step s.now (.due s.heard)
        some { s with clock?, log := s.log ++ [(s.now, if told then .ticked else .ended)] }
      else none
    | none => none

/-- What comes of steps, one after the other, if all of them can be taken. -/
def after? (s : Clockwork) (ms : List Move) : Option Clockwork := runSteps? next? s ms

/-! ## The ways of a step -/

/-- The ways in which a step is taken. -/
inductive Step (s : Clockwork) : Move → Clockwork → Prop
  | wait (span : ℕ) : Step s (.wait span) { s with now := s.now + span }
  | send (k : ClockCommand) : Step s (.send k) { s with waiting := s.waiting ++ [k] }
  | close : Step s .close { s with commanded := false }
  | deafen : Step s .deafen { s with heard := false }
  | obey {c : Clock} {k : ClockCommand} {rest : List ClockCommand} (clock : s.clock? = some c)
      (waiting : s.waiting = k :: rest) :
      Step s .obey { s with
        clock? := some (c.obey s.now k), waiting := rest, log := s.log ++ [(s.now, .obeyed k)] }
  | leave (clock : s.clock?.isSome) (waiting : s.waiting = []) (commanded : s.commanded = false) :
      Step s .leave { s with clock? := none, log := s.log ++ [(s.now, .ended)] }
  | tick {c : Clock} {d : ℕ} {u : Timer} (clock : s.clock? = some c)
      (due : c.timer.tick? s.now = some (d, u)) (heard : s.heard = true) :
      Step s .tick { s with clock? := some ⟨u⟩, log := s.log ++ [(s.now, .ticked)] }
  | unheard {c : Clock} {d : ℕ} {u : Timer} (clock : s.clock? = some c)
      (due : c.timer.tick? s.now = some (d, u)) (heard : s.heard = false) :
      Step s .tick { s with clock? := none, log := s.log ++ [(s.now, .ended)] }

variable {s t : Clockwork} {m : Move} {ms : List Move}

lemma step_of_next? (h : s.next? m = some t) : s.Step m t := by
  cases m with
  | wait span => cases h; exact .wait span
  | send k =>
    rw [next?] at h
    split at h <;> cases h
    exact .send k
  | close => cases h; exact .close
  | deafen => cases h; exact .deafen
  | obey =>
    rw [next?] at h
    split at h <;> cases h
    next hclock hwaiting => exact .obey hclock hwaiting
  | leave =>
    rw [next?] at h
    split at h
    next hclock hwaiting =>
      split at h <;> cases h
      next hcommanded =>
        exact .leave (by simp [hclock]) hwaiting (Bool.eq_false_iff.mpr hcommanded)
    next => cases h
  | tick =>
    rw [next?] at h
    split at h
    next c hclock =>
      split at h
      next hdue =>
        obtain ⟨⟨d, u⟩, hdu⟩ := Option.isSome_iff_exists.mp hdue
        cases hheard : s.heard with
        | true =>
          simp only [Clock.step, hdu, hheard, if_true] at h
          cases h
          exact hheard ▸ .tick hclock hdu hheard
        | false =>
          simp only [Clock.step, hdu, hheard, Bool.false_eq_true, if_false] at h
          cases h
          exact hheard ▸ .unheard hclock hdu hheard
      next => cases h
    next => cases h

/-- A clock at its end of a link, between the two queues of the link. -/
def ofWired (now : ℕ) (log : List (ℕ × WiredClock.Turn)) (w : WiredClock) : Clockwork where
  clock? := w.clock?
  now := now
  waiting := w.link.commands
  commanded := w.link.held
  heard := w.link.held
  log := log

/-- A turn of a clock at its end of a link is one of these steps. -/
theorem turn_alone {w w' : WiredClock} {now : ℕ} {turn : WiredClock.Turn}
    (h : w.turn? now = some (turn, w')) (log : List (ℕ × WiredClock.Turn)) :
    ∃ m, (ofWired now log w).next? m = some (ofWired now (log ++ [(now, turn)]) w') := by
  obtain ⟨⟨commands, ticks, held, listening, ticking⟩, clock?⟩ := w
  obtain _ | c := clock?
  · cases h
  obtain _ | ⟨k, rest⟩ := commands
  · cases held with
    | false =>
      cases h
      exact ⟨.leave, rfl⟩
    | true =>
      simp only [WiredClock.turn?, Link.take, Option.bind_some, if_true] at h
      split at h
      · cases h
      next hdue =>
        obtain ⟨⟨d, u⟩, hdu⟩ := Option.ne_none_iff_exists'.mp (by simpa using hdue)
        simp only [Clock.step, hdu, if_true] at h
        cases h
        exact ⟨.tick, by simp [ofWired, next?, Clock.step, hdu, Link.tick]⟩
  · cases h
    exact ⟨.obey, rfl⟩

/-! ## When the next tick may come -/

/-- The commands that were carried out, in this order. -/
def obeyed (log : List (ℕ × WiredClock.Turn)) : List ClockCommand :=
  log.filterMap fun e => e.2.command?

/-- The earliest instant of the next tick and the period, if there is to be a next tick, after
another turn. -/
def dueAfter (due? : Option (ℕ × ℕ)) : ℕ × WiredClock.Turn → Option (ℕ × ℕ)
  | (now, .obeyed (.start n)) => some (now + Clock.periodOf n, Clock.periodOf n)
  | (_, .obeyed .stop) => none
  | (_, .ticked) => due?.map fun (earliest, period) => (earliest + period, period)
  | (_, .ended) => due?

/-- The earliest instant of the next tick and the period, if there is to be a next tick. -/
def due? (log : List (ℕ × WiredClock.Turn)) : Option (ℕ × ℕ) := log.foldl dueAfter none

variable {log before ticks : List (ℕ × WiredClock.Turn)} {e : ℕ × WiredClock.Turn} {n : UInt64}

lemma due?_concat : due? (log ++ [e]) = dueAfter (due? log) e := List.foldl_append

lemma obeyed_concat : obeyed (log ++ [e]) = obeyed log ++ e.2.command?.toList := by
  rw [obeyed, List.filterMap_append]
  cases hk : e.2.command? <;> simp [obeyed, hk]

/-- There is to be a tick just if the last command was to start. -/
lemma isSome_due?_iff : (due? log).isSome ↔ ∃ n, (obeyed log).getLast? = some (.start n) := by
  induction log using List.reverseRecOn with
  | nil => simp [due?, obeyed]
  | append_singleton log e ih =>
    obtain ⟨now, turn⟩ := e
    rw [due?_concat, obeyed_concat]
    cases turn with
    | obeyed k => cases k <;> simp [dueAfter, WiredClock.Turn.command?]
    | ticked => simpa [dueAfter, WiredClock.Turn.command?] using ih
    | ended => simpa [dueAfter, WiredClock.Turn.command?] using ih

/-- Every tick since a start moves the next one by another period. -/
lemma due?_append_ticks {now : ℕ} (hticks : ∀ e ∈ ticks, e.2 = .ticked) :
    due? (before ++ (now, .obeyed (.start n)) :: ticks) =
      some (now + (ticks.length + 1) * Clock.periodOf n, Clock.periodOf n) := by
  induction ticks using List.reverseRecOn with
  | nil => simp [due?_concat, dueAfter]
  | append_singleton ticks e ih =>
    have htick : e.2 = .ticked := hticks e (by simp)
    obtain ⟨t, turn⟩ := e
    subst htick
    rw [← List.cons_append, ← List.append_assoc, due?_concat,
      ih fun e he => hticks e (List.mem_append_left _ he)]
    simp only [dueAfter, Option.map_some, List.length_append, List.length_singleton]
    rw [Nat.succ_mul (ticks.length + 1), Nat.add_assoc]

end Clockwork

/-! ## The timer and the record -/

namespace Clock

variable {c : Clock} {now d : ℕ} {u : Timer} {n : UInt64} {due? : Option (ℕ × ℕ)}

/-- The timer of the clock runs just if there is to be a tick, at the right period, and its next
tick comes no earlier than it may. -/
def Follows (c : Clock) : Option (ℕ × ℕ) → Prop
  | none => c.timer.deadline? = none
  | some (earliest, period) =>
    c.timer.period = period ∧ ∃ d, c.timer.deadline? = some d ∧ earliest ≤ d

lemma max_millis (n : ℕ) : max (millis n) nanosPerMilli = millis (max 1 n) := by
  rw [millis, millis, nanosPerMilli]
  omega

/-- A clock that is told to start ticks one period later, whatever it did before. -/
lemma timer_obey_start (now : ℕ) (c : Clock) (n : UInt64) :
    (c.obey now (.start n)).timer.period = periodOf n ∧
      (c.obey now (.start n)).timer.deadline? = some (now + periodOf n) := by
  have hperiod : (c.timer.setPeriod now (millis n.toNat)).period = periodOf n := by
    rw [periodOf, ← max_millis, Timer.period_setPeriod_eq]
  refine ⟨hperiod, ?_⟩
  rw [obey, Timer.deadline?_restart, hperiod]

/-- A clock that does not run is not changed by a command to stop. -/
lemma obey_stop_of_follows (h : c.Follows none) : c.obey now .stop = c := by
  obtain ⟨period, deadline?, hle⟩ := c
  cases h
  rfl

/-- A command to start, or to stop, is followed from then on. -/
lemma follows_obey (due? : Option (ℕ × ℕ)) (now : ℕ) (c : Clock) (k : ClockCommand) :
    (c.obey now k).Follows (Clockwork.dueAfter due? (now, .obeyed k)) := by
  cases k with
  | start n =>
    obtain ⟨hperiod, hdeadline⟩ := timer_obey_start now c n
    exact ⟨hperiod, _, hdeadline, Nat.le_refl _⟩
  | stop => rfl

/-- A tick that is taken was to come, and comes no earlier than it may; so does the next one. -/
lemma Follows.tick (h : c.Follows due?) (hdue : c.timer.tick? now = some (d, u)) :
    (∃ earliest period, due? = some (earliest, period) ∧ earliest ≤ now) ∧
      Follows ⟨u⟩ (Clockwork.dueAfter due? (now, .ticked)) := by
  obtain ⟨hd, hnow, rfl⟩ := Timer.tick?_eq_some_iff.mp hdue
  rcases due? with _ | ⟨earliest, period⟩
  · rw [Follows, hd] at h
    cases h
  · obtain ⟨rfl, d', hd', hearliest⟩ := h
    obtain rfl : d = d' := Option.some.inj (hd.symm.trans hd')
    have hnext := Timer.deadline_add_period_le now d c.timer.period
    exact ⟨⟨_, _, rfl, by omega⟩, rfl, _, rfl, by omega⟩

end Clock

namespace Clockwork

variable {s t : Clockwork} {m : Move} {ms : List Move} {log : List (ℕ × WiredClock.Turn)}
  {e : ℕ × WiredClock.Turn}

/-! ## What every step keeps -/

/-- Every tick was to come, and came no earlier than it might. -/
def AsTold (log : List (ℕ × WiredClock.Turn)) : Prop :=
  ∀ before now later, log = before ++ (now, .ticked) :: later →
    ∃ earliest period, due? before = some (earliest, period) ∧ earliest ≤ now

lemma AsTold.concat (h : AsTold log)
    (he : e.2 = .ticked → ∃ earliest period, due? log = some (earliest, period) ∧ earliest ≤ e.1) :
    AsTold (log ++ [e]) := by
  intro before now later heq
  rcases List.eq_nil_or_concat later with rfl | ⟨later, e', rfl⟩
  · obtain ⟨rfl, hlast⟩ := List.append_inj' heq rfl
    obtain rfl : e = (now, .ticked) := List.singleton_inj.mp hlast
    exact he rfl
  · have hsplit : log ++ [e] = (before ++ (now, .ticked) :: later) ++ [e'] := by simpa using heq
    exact h before now later (List.append_inj' hsplit rfl).1

/-- What is known of a clock that has run between its queues. -/
structure Sound (s : Clockwork) : Prop where
  follows : ∀ c, s.clock? = some c → c.Follows (due? s.log)
  ticks : AsTold s.log

lemma sound_start : ({} : Clockwork).Sound := by
  refine ⟨?_, ?_⟩
  · rintro c hc
    cases hc
    rfl
  · intro before now later h
    simp at h

/-- **A step keeps what is known of the clock.** -/
lemma Sound.next (hs : s.Sound) (h : s.next? m = some t) : t.Sound := by
  cases step_of_next? h with
  | wait | send | close | deafen => exact ⟨hs.follows, hs.ticks⟩
  | @obey c k =>
    refine ⟨?_, hs.ticks.concat nofun⟩
    rintro c' hc
    cases hc
    rw [due?_concat]
    exact Clock.follows_obey _ s.now c k
  | leave | unheard =>
    refine ⟨?_, hs.ticks.concat nofun⟩
    rintro c' hc
    cases hc
  | @tick c d u clock due heard =>
    obtain ⟨hearliest, hfollows⟩ := (hs.follows c clock).tick due
    refine ⟨?_, hs.ticks.concat fun _ => hearliest⟩
    rintro c' hc
    cases hc
    rw [due?_concat]
    exact hfollows

lemma Sound.after (hs : s.Sound) (h : s.after? ms = some t) : t.Sound :=
  runSteps?_induction (fun _ _ _ hs hm => hs.next hm) hs h

/-- The commands are carried out in the order in which they came. -/
lemma Step.obeyed_append (h : s.Step m t) :
    obeyed t.log ++ t.waiting = obeyed s.log ++ s.waiting ++ m.sent?.toList := by
  cases h with
  | send k => exact (List.append_assoc ..).symm
  | obey clock waiting => simp [obeyed_concat, waiting, WiredClock.Turn.command?, Move.sent?]
  | leave | tick | unheard => simp [obeyed_concat, WiredClock.Turn.command?, Move.sent?]
  | wait | close | deafen => simp [Move.sent?]

lemma obeyed_append_of_after? (h : ({} : Clockwork).after? ms = some t) :
    obeyed t.log ++ t.waiting = ms.filterMap Move.sent? := by
  refine runSteps?_history (P := fun ms t => obeyed t.log ++ t.waiting = ms.filterMap Move.sent?)
    rfl ?_ h
  intro ms t m u ht hm
  rw [(step_of_next? hm).obeyed_append, ht, List.filterMap_append]
  cases hk : m.sent? <;> simp [hk]

/-! ## The end -/

/-- A step ends the clock when there is no command left and none to come, or when nobody receives
the tick, and never otherwise. -/
lemma Step.clock?_eq_none_iff (h : s.Step m t) (hs : s.clock?.isSome) :
    t.clock? = none ↔ m = .leave ∨ m = .tick ∧ s.heard = false := by
  cases h with
  | obey => simp
  | leave => simp
  | tick clock due heard => simp [heard]
  | unheard clock due heard => simp [heard]
  | wait | send | close | deafen => simp [Option.isSome_iff_ne_none.mp hs]

/-- **The clock ticks as it was told.**  Take any commands, coming at any times, and any times at
which the clock has its turns, and look at what it has done by then:

* the commands that it carried out and those that still wait are those that came, in this order;
* it ticks only when the last command that it carried out was to start, so that there is no tick
  before the first start or after a stop;
* after a start that was carried out at an instant, and before the next command, the tick number
  `k + 1` comes at least `k + 1` periods later, a period being the interval or a millisecond, if
  that is more;
* a command that waits can be carried out, and leaves the clock there;
* a start puts the next tick one full period later, whatever the clock did before, and a stop
  changes nothing in a clock that was stopped or not started yet;
* of all steps just two end the clock: that it leaves, which it can do just when no command waits
  and none can come, and a tick that nobody receives;
* whatever turn the clock has at its end of a link, it can have it here. -/
theorem ticks_as_told (reached : ({} : Clockwork).after? ms = some s) :
    obeyed s.log ++ s.waiting = ms.filterMap Move.sent? ∧
    (∀ before now later, s.log = before ++ (now, .ticked) :: later →
      ∃ n, (obeyed before).getLast? = some (.start n)) ∧
    (∀ before start n ticks later,
      s.log = before ++ (start, .obeyed (.start n)) :: (ticks ++ later) →
      (∀ e ∈ ticks, e.2 = .ticked) →
      ∀ k e, ticks[k]? = some e → start + (k + 1) * millis (max 1 n.toNat) ≤ e.1) ∧
    (∀ c k rest, s.clock? = some c → s.waiting = k :: rest →
      ∃ c', s.next? .obey = some { s with
          clock? := some c', waiting := rest, log := s.log ++ [(s.now, .obeyed k)] } ∧
        (∀ n, k = .start n → c'.timer.period = millis (max 1 n.toNat) ∧
          c'.timer.deadline? = some (s.now + millis (max 1 n.toNat))) ∧
        (k = .stop → (∀ n, (obeyed s.log).getLast? ≠ some (.start n)) → c' = c)) ∧
    (∀ m t, s.clock?.isSome → s.next? m = some t →
      (t.clock? = none ↔ m = .leave ∨ m = .tick ∧ s.heard = false)) ∧
    ((s.next? .leave).isSome ↔ s.clock?.isSome ∧ s.waiting = [] ∧ s.commanded = false) ∧
    ∀ w turn w', s = ofWired s.now s.log w → w.turn? s.now = some (turn, w') →
      ∃ m, s.next? m = some (ofWired s.now (s.log ++ [(s.now, turn)]) w') := by
  have hsound : s.Sound := sound_start.after reached
  refine ⟨?_, ?_, ?_, ?_, ?_, ?_, ?_⟩
  · exact obeyed_append_of_after? reached
  · intro before now later hlog
    obtain ⟨earliest, period, hdue, -⟩ := hsound.ticks before now later hlog
    exact isSome_due?_iff.mp (by rw [hdue]; rfl)
  · intro before start n ticks later hlog hticks k e hk
    -- the ticks before this one have moved it by one period each
    obtain ⟨hlt, rfl⟩ := List.getElem?_eq_some_iff.mp hk
    have hsplit : s.log = (before ++ (start, .obeyed (.start n)) :: ticks.take k) ++
        (ticks[k].1, .ticked) :: (ticks.drop (k + 1) ++ later) := by
      have htick : (ticks[k].1, .ticked) = ticks[k] :=
        Prod.ext rfl (hticks _ (List.getElem_mem hlt)).symm
      rw [hlog, htick, List.append_assoc, List.cons_append, ← List.cons_append (a := ticks[k]),
        ← List.append_assoc (ticks.take k), List.getElem_cons_drop, List.take_append_drop]
    obtain ⟨earliest, period, hdue, hle⟩ := hsound.ticks _ _ _ hsplit
    rw [due?_append_ticks fun e he => hticks e (List.mem_of_mem_take he),
      List.length_take_of_le (Nat.le_of_lt hlt)] at hdue
    obtain ⟨rfl, -⟩ := Prod.mk.inj (Option.some.inj hdue)
    exact hle
  · intro c k rest hclock hwaiting
    refine ⟨c.obey s.now k, ?_, ?_, ?_⟩
    · simp only [next?, hclock, hwaiting, Clock.step]
    · rintro n rfl
      exact Clock.timer_obey_start s.now c n
    · rintro rfl hlast
      have hfollows := hsound.follows c hclock
      cases hdue : due? s.log with
      | none =>
        rw [hdue] at hfollows
        exact Clock.obey_stop_of_follows hfollows
      | some due =>
        obtain ⟨n, hn⟩ := isSome_due?_iff.mp (Option.isSome_of_eq_some hdue)
        exact absurd hn (hlast n)
  · intro m t hs hm
    exact (step_of_next? hm).clock?_eq_none_iff hs
  · cases hclock : s.clock? <;> cases hwaiting : s.waiting <;> cases hcommanded : s.commanded <;>
      simp [next?, hclock, hwaiting, hcommanded]
  · intro w turn w' hs hturn
    obtain ⟨m, hm⟩ := turn_alone hturn s.log
    exact ⟨m, hs ▸ hm⟩

/-- A clock is told to stop before it has started, and then to start.  Its first tick comes late,
it is told the same again before the second one, and that comes a full period later.  After two
more commands to stop there is nobody left who could tell it anything. -/
def restarted : List Move :=
  [.send .stop, .obey, .send (.start 100), .obey, .wait (millis 107), .tick,
    .send (.start 100), .wait (millis 43), .obey, .wait (millis 100), .tick,
    .send .stop, .send .stop, .close, .obey, .obey, .leave]

theorem ticks_as_told_restarted :
    ∃ s, ({} : Clockwork).after? restarted = some s ∧ s.clock? = none ∧
      obeyed s.log = [.stop, .start 100, .start 100, .stop, .stop] ∧
      s.log = [(0, .obeyed .stop), (0, .obeyed (.start 100))] ++
        (millis 107, .ticked) :: (millis 150, .obeyed (.start 100)) ::
          ([(millis 250, .ticked)] ++ [(millis 250, .obeyed .stop), (millis 250, .obeyed .stop),
            (millis 250, .ended)]) ∧
      millis 150 + (0 + 1) * millis (max 1 100) ≤ millis 250 := by
  obtain ⟨s, reached, hlog, hclock⟩ : ∃ s, ({} : Clockwork).after? restarted = some s ∧
      s.log = [(0, .obeyed .stop), (0, .obeyed (.start 100))] ++
        (millis 107, .ticked) :: (millis 150, .obeyed (.start 100)) ::
          ([(millis 250, .ticked)] ++ [(millis 250, .obeyed .stop), (millis 250, .obeyed .stop),
            (millis 250, .ended)]) ∧ s.clock? = none := ⟨_, rfl, rfl, rfl⟩
  obtain ⟨hobeyed, -, hticks, -⟩ := ticks_as_told reached
  have hsecond := hticks ([(0, .obeyed .stop), (0, .obeyed (.start 100))] ++
    [(millis 107, .ticked)]) (millis 150) 100 [(millis 250, .ticked)] _ hlog (by simp) 0 _ rfl
  exact ⟨s, reached, hclock, by rw [hlog]; rfl, hlog, hsecond⟩

end Clockwork

end LinkWatch
