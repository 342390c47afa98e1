/-
# A watchdog and its probe

A watchdog hears of the network from a probe, and both leave out what is not new.  The probe reports
its first result, and then those that differ from the one before.  The watchdog takes the network to
be absent at first, and deals only with a signal that says something else than the one before.
Between the two is a queue with a few places: the probe may have to wait until it can send the next
report, and the watchdog may hear of a result when the probe has found others since.

Whatever the delays, nothing is lost by this: when all reports were dealt with, the watchdog takes
the network to be as it was found last, and it has seen as many changes as there were in what was
found (`Probed.signal_faithful`).
-/
import LinkWatch.Proofs.Network.Patrol
import LinkWatch.Proofs.Watchdog.Rounds

namespace LinkWatch

/-! ## Changes -/

/-- The number of changes in a sequence of values that follows a value. -/
def changesFrom : Bool → List Bool → ℕ
  | _, [] => 0
  | b, r :: rs => (if r = b then 0 else 1) + changesFrom r rs

/-- Leaving out repetitions leaves out no change. -/
lemma changesFrom_destutter' (b a : Bool) (rs : List Bool) :
    changesFrom b (rs.destutter' (· ≠ ·) a) = changesFrom b (a :: rs) := by
  induction rs generalizing a b with
  | nil => rfl
  | cons r rs ih =>
    by_cases har : a = r
    · rw [List.destutter'_cons_neg _ (not_not.mpr har), ih]
      simp [changesFrom, har]
    · rw [List.destutter'_cons_pos _ har, changesFrom, ih]
      rfl

lemma changesFrom_destutter (b : Bool) (rs : List Bool) :
    changesFrom b (rs.destutter (· ≠ ·)) = changesFrom b rs := by
  cases rs with
  | nil => rfl
  | cons r rs => exact changesFrom_destutter' b r rs

namespace Happening

/-- The signal that the event loop deals with. -/
def signal? : Happening → Option Bool
  | .turn _ (.signal online) => some online
  | _ => none

/-- The signals that the event loop deals with, in this order. -/
def signals (hs : List Happening) : List Bool := hs.filterMap signal?

/-- Whether it is no signal, and signals go on to be heard. -/
def leavesSignals : Happening → Bool
  | .turn _ (.signal _) | .turn _ .signalsClosed | .finish _ => false
  | _ => true

lemma signal?_of_leavesSignals {h : Happening} (hl : h.leavesSignals) : h.signal? = none := by
  cases h with
  | turn m i => cases i <;> first | rfl | cases hl
  | _ => rfl

lemma signals_cons (h : Happening) (hs : List Happening) :
    signals (h :: hs) = h.signal?.toList ++ signals hs := by
  cases hsignal : h.signal? with
  | none => exact List.filterMap_cons_none hsignal
  | some online => exact List.filterMap_cons_some hsignal

lemma signals_concat (hs : List Happening) (h : Happening) :
    signals (hs ++ [h]) = signals hs ++ h.signal?.toList := by
  rw [signals, List.filterMap_append, ← signals, ← signals, signals_cons]
  exact congrArg _ (List.append_nil _)

end Happening

open Happening (signals)

namespace Watchdog

variable {w : Watchdog} {h : Happening} {hs : List Happening}

/-- How often the network comes or goes for a watchdog. -/
def transitions (w : Watchdog) : List Happening → ℕ
  | [] => 0
  | h :: hs =>
    (if (w.happen h).1.core.status.onLine = w.core.status.onLine then 0 else 1) +
      (w.happen h).1.transitions hs

/-- A watchdog takes the network to be as the signal says. -/
lemma onLine_happen (w : Watchdog) (h : Happening) :
    (w.happen h).1.core.status.onLine = h.signal?.getD w.core.status.onLine := by
  refine (congrArg Regime.onLine (regime_happen w h)).trans ?_
  cases h with
  | turn m i =>
    have hnext : w.core.regime.next w.core.config (.turn m i) =
        w.core.regime.after w.core.config i := rfl
    rw [hnext]
    cases i with
    | signal online => rfl
    | _ => exact Core.onLine_after nofun
  | _ => rfl

/-- In the end a watchdog takes the network to be as the last signal says. -/
lemma onLine_after (w : Watchdog) (hs : List Happening) :
    (w.after hs).core.status.onLine = (signals hs).getLast?.getD w.core.status.onLine := by
  induction hs using List.reverseRecOn with
  | nil => rfl
  | append_singleton hs h ih =>
    rw [after_concat, onLine_happen, ih, Happening.signals_concat]
    cases h.signal? <;> simp

/-- The network comes or goes for a watchdog as often as the signals change. -/
lemma transitions_eq (w : Watchdog) (hs : List Happening) :
    w.transitions hs = changesFrom w.core.status.onLine (signals hs) := by
  induction hs generalizing w with
  | nil => rfl
  | cons h hs ih =>
    rw [transitions, ih, onLine_happen, Happening.signals_cons]
    cases h.signal? with
    | none => simp
    | some online => rfl

end Watchdog

/-! ## Both together -/

/-- A watchdog whose event loop runs, and the probe that it hears of the network from. -/
structure Probed where
  patrol : Patrol := {}
  watchdog : Watchdog
  /-- What has happened to the watchdog, in this order. -/
  life : List Happening := []

namespace Probed

/-- A step of the probe or of the event loop. -/
inductive Move where
  /-- The probe checks the network or sends a report. -/
  | probe (k : Patrol.Move)
  /-- The event loop takes the next report and deals with it. -/
  | hear (m : Moment)
  /-- Something else happens to the watchdog. -/
  | other (h : Happening)

/-- Something happens to the watchdog. -/
def live (s : Probed) (h : Happening) : Probed :=
  { s with watchdog := (s.watchdog.happen h).1, life := s.life ++ [h] }

/-- What comes of a step, if it can be taken. -/
def next? (s : Probed) : Move → Option Probed
  | .probe k =>
    if k = .take ∨ k = .drop then none
    else (s.patrol.next? k).map fun patrol => { s with patrol }
  | .hear m =>
    match s.patrol.queue with
    | online :: rest =>
      if s.watchdog.allows (.turn m (.signal online)) then
        some { s.live (.turn m (.signal online)) with patrol := { s.patrol with queue := rest } }
      else none
    | [] => none
  | .other h => if h.leavesSignals ∧ s.watchdog.allows h then some (s.live h) else none

/-- What comes of steps, one after the other, if all of them can be taken. -/
def after? (s : Probed) (ks : List Move) : Option Probed := runSteps? next? s ks

/-- Nothing is still to be sent, and all that was sent was dealt with. -/
def Settled (s : Probed) : Prop := s.patrol.stage.pending? = none ∧ s.patrol.queue = []

/-! ## The ways of a step -/

/-- The ways in which a step is taken. -/
inductive Step (s : Probed) : Move → Probed → Prop
  | probe {k : Patrol.Move} {patrol : Patrol} (own : k ≠ .take ∧ k ≠ .drop)
      (next : s.patrol.next? k = some patrol) : Step s (.probe k) { s with patrol }
  | hear {m : Moment} {online : Bool} {rest : List Bool} (queue : s.patrol.queue = online :: rest)
      (allowed : s.watchdog.allows (.turn m (.signal online)) = true) :
    Step s (.hear m)
      { s.live (.turn m (.signal online)) with patrol := { s.patrol with queue := rest } }
  | other {h : Happening} (leaves : h.leavesSignals = true)
      (allowed : s.watchdog.allows h = true) : Step s (.other h) (s.live h)

variable {w : Watchdog} {s t u : Probed} {k : Move} {ks ls ms : List Move} {online : Bool}

lemma step_of_next? (h : s.next? k = some t) : s.Step k t := by
  cases k with
  | probe k =>
    rw [next?] at h
    split at h
    next => cases h
    next hown =>
      obtain ⟨patrol, hnext, rfl⟩ := Option.map_eq_some_iff.mp h
      exact .probe (not_or.mp hown) hnext
  | hear m =>
    rw [next?] at h
    split at h
    next online rest hqueue =>
      split at h <;> cases h
      next hallowed => exact .hear hqueue hallowed
    next => cases h
  | other h' =>
    rw [next?] at h
    split at h <;> cases h
    next hother => exact .other hother.1 hother.2

/-! ## What every step keeps -/

/-- What is known of a watchdog and its probe since the event loop was started. -/
structure Sound (w : Watchdog) (s : Probed) : Prop where
  patrol : s.patrol.Sound
  heard : s.patrol.heard = true
  lives : w.lives s.life
  watchdog : s.watchdog = w.after s.life
  running : s.watchdog.phase = .running
  /-- The event loop has dealt with the reports in the order in which they were sent, and the others
  still wait. -/
  sent : s.patrol.sent = signals s.life ++ s.patrol.queue

lemma sound_start (running : w.phase = .running) : ({ watchdog := w } : Probed).Sound w :=
  ⟨Patrol.sound_start, rfl, rfl, rfl, running, rfl⟩

/-- What happens to the watchdog continues its life. -/
lemma Sound.live {h : Happening} (hs : s.Sound w) (ha : s.watchdog.allows h) :
    w.lives (s.live h).life ∧ (s.live h).watchdog = w.after (s.live h).life := by
  have hwatchdog := hs.watchdog
  refine ⟨Watchdog.lives_append.mpr ⟨hs.lives, ?_⟩, ?_⟩
  · rw [← hwatchdog]
    exact Watchdog.lives_cons.mpr ⟨ha, rfl⟩
  · rw [Probed.live, Watchdog.after_append, ← hwatchdog]
    rfl

/-- The event loop runs on until it ends. -/
lemma phase_happen_of_leavesSignals {h : Happening} (hl : h.leavesSignals) :
    (w.happen h).1.phase = w.phase := by
  cases h with
  | finish m => cases hl
  | _ => rfl

/-- **A step keeps what is known of a watchdog and its probe.** -/
lemma Sound.next (hs : s.Sound w) (h : s.next? k = some t) : t.Sound w := by
  cases step_of_next? h with
  | probe own next =>
    obtain ⟨hheard, new, hsent, hqueue⟩ := (Patrol.step_of_next? next).sent own
    refine ⟨hs.patrol.next next, hheard.trans hs.heard, hs.lives, hs.watchdog, hs.running, ?_⟩
    rw [hsent, hqueue, hs.sent, List.append_assoc]
  | @hear m online rest queue allowed =>
    have htake : s.patrol.next? .take = some { s.patrol with queue := rest } := by
      rw [Patrol.next?, queue]
    obtain ⟨hlives, hwatchdog⟩ := hs.live allowed
    refine ⟨hs.patrol.next htake, hs.heard, hlives, hwatchdog, hs.running, ?_⟩
    show s.patrol.sent = signals (s.life ++ [_]) ++ rest
    rw [hs.sent, queue, Happening.signals_concat, List.append_assoc]
    rfl
  | @other happening leaves allowed =>
    obtain ⟨hlives, hwatchdog⟩ := hs.live allowed
    refine ⟨hs.patrol, hs.heard, hlives, hwatchdog,
      (phase_happen_of_leavesSignals leaves).trans hs.running, ?_⟩
    show s.patrol.sent = signals (s.life ++ [_]) ++ s.patrol.queue
    rw [hs.sent, Happening.signals_concat, Happening.signal?_of_leavesSignals leaves]
    exact congrArg (· ++ _) (List.append_nil _).symm

lemma Sound.after (hs : s.Sound w) (h : s.after? ks = some t) : t.Sound w :=
  runSteps?_induction (fun _ _ _ hs hk => hs.next hk) hs h

lemma Sound.of_reaches (hs : s.Sound w) (h : Reaches next? s t) : t.Sound w := by
  obtain ⟨ks, h⟩ := h
  exact hs.after h

/-! ## Where it can go on -/

lemma reaches_probe {k : Patrol.Move} {patrol : Patrol} (next : s.patrol.next? k = some patrol)
    (own : k ≠ .take ∧ k ≠ .drop) : Reaches next? s { s with patrol } := by
  have hk : s.next? (.probe k) = some { s with patrol } := by
    rw [next?, if_neg (not_or.mpr own), next]
    rfl
  exact .step hk

namespace Sound

/-- The event loop can wait for reports, once the heartbeat that is under way is answered. -/
lemma exists_idle (hs : s.Sound w) :
    ∃ t, Reaches next? s t ∧ t.patrol = s.patrol ∧ t.watchdog.core.emitting = false := by
  cases hemitting : s.watchdog.core.emitting with
  | false => exact ⟨s, .refl s, rfl, hemitting⟩
  | true =>
    let answer : Happening := .turn ⟨0, .epoch, true⟩ (.emitted (.ok ()))
    have hanswer : s.next? (.other answer) = some (s.live answer) :=
      if_pos ⟨rfl, Watchdog.allows_turn_iff.mpr ⟨hs.running, hemitting⟩⟩
    refine ⟨_, .step hanswer, rfl, ?_⟩
    show (s.watchdog.core.step ⟨0, .epoch, true⟩ (.emitted (.ok ()))).1.emitting = false
    rw [Core.step_fst, Core.emitting_shown]
    rfl

/-- The event loop can deal with all the reports that wait. -/
lemma exists_drained (hs : s.Sound w) (idle : s.watchdog.core.emitting = false) :
    ∃ t, Reaches next? s t ∧ t.patrol = { s.patrol with queue := [] } ∧
      t.watchdog.core.emitting = false := by
  induction hqueue : s.patrol.queue generalizing s with
  | nil => exact ⟨s, .refl s, by rw [← hqueue], idle⟩
  | cons online rest ih =>
    let signal : Happening := .turn ⟨0, .epoch, true⟩ (.signal online)
    have hallowed : s.watchdog.allows signal := by
      refine Watchdog.allows_turn_iff.mpr ⟨hs.running, ?_⟩
      rw [Core.awaits_of_steers rfl, idle]
      rfl
    have hhear : s.next? (.hear ⟨0, .epoch, true⟩) =
        some { s.live signal with patrol := { s.patrol with queue := rest } } := by
      rw [next?, hqueue]
      exact if_pos hallowed
    obtain ⟨t, ht, hpatrol, hidle⟩ := ih (hs.next hhear)
      ((Core.emitting_step_of_steers rfl).trans idle) rfl
    exact ⟨t, .trans (.step hhear) ht, hpatrol, hidle⟩

/-- When no check is under way, the report that is still to be sent can be sent, and the event loop
can deal with it and with all that wait. -/
lemma exists_settled (hs : s.Sound w) (hstage : s.patrol.stage ≠ .checking) :
    ∃ t, Reaches next? s t ∧ t.patrol.stage = .resting ∧ t.patrol.queue = [] ∧
      t.patrol.results = s.patrol.results := by
  obtain ⟨t, ht, hpatrol, hidle⟩ := hs.exists_idle
  obtain ⟨u, hu, hdrained, hidle⟩ := (hs.of_reaches ht).exists_drained hidle
  rw [hpatrol] at hdrained
  have hreached := ht.trans hu
  cases hs' : s.patrol.stage with
  | resting => exact ⟨u, hreached, by simp [hdrained, hs'], by simp [hdrained], by simp [hdrained]⟩
  | checking => exact absurd hs' hstage
  | ended => exact absurd hs' (hs.patrol.heard hs.heard)
  | reporting online =>
    have hdeliver : u.patrol.next? .deliver = some { s.patrol with
        stage := .resting, queue := [online], sent := s.patrol.sent ++ [online] } := by
      simp [hdrained, Patrol.next?, hs', hs.heard, Patrol.places]
    have hsent := reaches_probe hdeliver (by simp)
    obtain ⟨v, hv, hlast, -⟩ := (hs.of_reaches (hreached.trans hsent)).exists_drained hidle
    exact ⟨v, .trans (.trans hreached hsent) hv, by simp [hlast], by simp [hlast], by simp [hlast]⟩

/-- Whatever is found next, the probe and the event loop can deal with it. -/
lemma exists_results (hs : s.Sound w) (hstage : s.patrol.stage ≠ .checking) (rs : List Bool) :
    ∃ t, Reaches next? s t ∧ t.patrol.stage = .resting ∧ t.patrol.queue = [] ∧
      t.patrol.results = s.patrol.results ++ rs := by
  induction rs using List.reverseRecOn with
  | nil =>
    rw [List.append_nil]
    exact hs.exists_settled hstage
  | append_singleton rs r ih =>
    obtain ⟨t, ht, hresting, -, hresults⟩ := ih
    have hbegin : t.patrol.next? .begin = some { t.patrol with stage := .checking } :=
      if_pos hresting
    have hchecking := reaches_probe hbegin (by simp)
    obtain ⟨patrol, hresult, hchecked, hfound⟩ :=
      ((hs.of_reaches ht).patrol.next hbegin).exists_result rfl r
    have hreached := (ht.trans hchecking).trans (reaches_probe hresult (by simp))
    obtain ⟨u, hu, hsettled, hqueue, hsame⟩ :=
      (hs.of_reaches hreached).exists_settled hchecked
    refine ⟨u, hreached.trans hu, hsettled, hqueue, ?_⟩
    rw [hsame, hfound, hresults, List.append_assoc]

end Sound

/-- **A watchdog hears faithfully of what its probe finds.**  Take a watchdog whose event loop runs
and which takes the network to be absent, and any order of the steps of the probe and of the event
loop, in which the receiver is kept:

* the reports that were sent, and the one that is still to be sent, are the results without those
  that repeat the one before; of those that were sent, in their order, the watchdog has dealt with
  all but the last few, which wait in the queue;
* when nothing is still to be sent and nothing waits, the first result was sent, no two reports in a
  row are equal, and the last is the last result; the watchdog takes the network to be as it was
  found last, and the network has come or gone for it as often as there are changes in what was
  found, from absent on;
* this comes about whatever is found: when no check is under way, there is a way on in which any
  results are found and dealt with;
* the results without their repetitions are what `Probing` reports of them, and the next check of a
  probe that rests, with a place in the queue, is a turn of `Probing`. -/
theorem signal_faithful (running : w.phase = .running) (offline : w.core.status.onLine = false)
    (reached : ({ watchdog := w } : Probed).after? ks = some t) :
    (t.patrol.sent ++ t.patrol.stage.pending?.toList = t.patrol.results.destutter (· ≠ ·) ∧
      t.patrol.sent = signals t.life ++ t.patrol.queue ∧
      t.patrol.queue.length ≤ Patrol.places ∧
      w.lives t.life ∧ t.watchdog = w.after t.life) ∧
    (t.Settled →
      t.patrol.sent = t.patrol.results.destutter (· ≠ ·) ∧
      t.patrol.sent.head? = t.patrol.results.head? ∧
      t.patrol.sent.IsChain (· ≠ ·) ∧
      t.patrol.sent.getLast? = t.patrol.results.getLast? ∧
      (∀ r, t.patrol.results.getLast? = some r → t.watchdog.core.status.onLine = r) ∧
      w.transitions t.life = changesFrom false t.patrol.results) ∧
    (t.patrol.stage ≠ .checking → ∀ rs, ∃ ls u, t.after? ls = some u ∧ u.Settled ∧
      u.patrol.results = t.patrol.results ++ rs) ∧
    (Probing.reports {} t.patrol.results).reduceOption = t.patrol.results.destutter (· ≠ ·) ∧
    (t.patrol.stage = .resting → t.patrol.queue.length < Patrol.places → ∀ online,
      (t.patrol.after? (.begin :: .result online ::
          if t.patrol.probing.last? = some online then [] else [.deliver])).map (·.probing) =
        some (t.patrol.probing.turn true online)) := by
  have hs : t.Sound w := (sound_start running).after reached
  have hreports := hs.patrol.reports (hs.patrol.heard hs.heard)
  refine ⟨⟨hreports, hs.sent, hs.patrol.places, hs.lives, hs.watchdog⟩,
    fun ⟨hpending, hqueue⟩ => ?_, fun hstage rs => ?_, Patrol.reduceOption_reports _,
    fun hresting hplace online => ?_⟩
  · have hsent : t.patrol.sent = t.patrol.results.destutter (· ≠ ·) := by
      rw [← hreports, hpending]
      exact (List.append_nil _).symm
    have hheard : signals t.life = t.patrol.results.destutter (· ≠ ·) := by
      rw [← hsent, hs.sent, hqueue, List.append_nil]
    refine ⟨hsent, ?_, ?_, ?_, fun r hr => ?_, ?_⟩
    · rw [hsent, Patrol.head?_destutter]
    · rw [hsent]
      exact List.isChain_destutter _ _
    · rw [hsent, Patrol.getLast?_destutter]
    · rw [hs.watchdog, Watchdog.onLine_after, hheard, Patrol.getLast?_destutter, hr]
      rfl
    · rw [Watchdog.transitions_eq, hheard, offline, changesFrom_destutter]
  · obtain ⟨u, ⟨ls, hu⟩, hresting, hqueue, hresults⟩ := hs.exists_results hstage rs
    exact ⟨ls, u, hu, ⟨by rw [hresting]; rfl, hqueue⟩, hresults⟩
  · have hturn :=
      Patrol.turn_alone hresting (hs.patrol.running.mpr (by simp [hresting])) hplace online
    simpa only [hs.heard, if_true] using hturn

/-- The probe finds the network there twice, then gone, then there again, before the watchdog deals
with the first report. -/
def outpaced : List Move :=
  let m : Moment := ⟨0, .epoch, true⟩
  [.probe .begin, .probe (.result true), .probe .deliver, .probe .begin, .probe (.result true),
    .probe .begin, .probe (.result false), .probe .deliver, .probe .begin, .probe (.result true),
    .hear m, .probe .deliver, .hear m, .hear m]

theorem signal_faithful_outpaced :
    ∃ t, ({ watchdog := .launch {} true } : Probed).after? outpaced = some t ∧
      t.patrol.results = [true, true, false, true] ∧ t.patrol.sent = [true, false, true] ∧
      t.watchdog.core.status.onLine = true ∧ (Watchdog.launch {} true).transitions t.life = 3 := by
  have hview : (({ watchdog := .launch {} true } : Probed).after? outpaced).map
      (fun t => (t.patrol.results, t.patrol.stage, t.patrol.queue)) =
        some ([true, true, false, true], .resting, []) := rfl
  obtain ⟨t, reached, hview⟩ := Option.map_eq_some_iff.mp hview
  obtain ⟨hresults, hstage, hqueue⟩ : t.patrol.results = [true, true, false, true] ∧
      t.patrol.stage = .resting ∧ t.patrol.queue = [] := by
    simpa using hview
  obtain ⟨-, hsettled, -⟩ := signal_faithful rfl rfl reached
  obtain ⟨hsent, -, -, -, honline, htransitions⟩ := hsettled ⟨by rw [hstage]; rfl, hqueue⟩
  rw [hresults] at hsent honline htransitions
  exact ⟨t, reached, hresults, hsent, honline true rfl, htransitions⟩

end Probed

end LinkWatch
