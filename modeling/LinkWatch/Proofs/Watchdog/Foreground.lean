/-
# The foreground by itself

The background clock is there to be compared with the foreground timer, and it has no influence on
it.  To say so, everything that concerns the background clock is left out, of the state
(`Core.foreground`) as well as of what happens (`Happening.foreground?`): the ticks of the clock and
its end are no happenings of the foreground at all, and whether the clock takes commands is not
asked.

What is left is the life of a watchdog without a background clock (`Watchdog.lives_foreground`).
Two lives with the same foreground therefore agree in everything that has to do with heartbeats,
however different their clocks (`Watchdog.foreground_unaffected_by_clock`).
-/
import LinkWatch.Proofs.Watchdog.Adoption

namespace LinkWatch

/-! ## Leaving out the background clock -/

/-- A snapshot without what concerns the background clock. -/
def Status.foreground (s : Status) : Status :=
  { s with
    workerAvailable := false
    lastBackgroundPing? := none
    backgroundDriftMs? := none
    backgroundTicks := 0 }

/-- The state of the event loop without what concerns the background clock. -/
def Core.foreground (c : Core) : Core :=
  { c with
    workerHeld := false
    status := c.status.foreground
    published := c.published.foreground
    lastBackgroundPing? := none }

/-- A moment at which it is not asked whether the clock takes commands. -/
def Moment.foreground (m : Moment) : Moment := { m with listening := false }

/-- A watchdog without what concerns its background clock. -/
def Watchdog.foreground (w : Watchdog) : Watchdog := { w with core := w.core.foreground }

/-- Whether an incident comes from the background clock. -/
def Incident.isBackground : Incident → Bool
  | .workerTick | .workerGone => true
  | _ => false

namespace Happening

/-- What remains of a happening without the background clock. -/
def foreground? : Happening → Option Happening
  | .turn m i => if i.isBackground then none else some (.turn m.foreground i)
  | .bind i => some (.bind i)
  | .finish m => some (.finish m.foreground)

/-- What remains of a life without the background clock. -/
def foreground (hs : List Happening) : List Happening := hs.filterMap foreground?

end Happening

namespace Core

variable {m : Moment} {c : Core} {i : Incident}

/-! ## Turns -/

lemma foreground_adopt (m : Moment) (r : Regime) (c : Core) :
    (c.adopt m r).foreground = c.foreground.adopt m.foreground r := by
  rw [adopt, adopt]
  cases hleft : c.status.onLine && !r.onLine with
  | false =>
    have hleft' : (c.foreground.status.onLine && !r.onLine) = false := hleft
    simp only [hleft']
    rfl
  | true =>
    have hleft' : (c.foreground.status.onLine && !r.onLine) = true := hleft
    simp only [hleft']
    rfl

lemma foreground_endPing (result : Except Fault Unit) (c : Core) :
    (c.endPing result).1.foreground = (c.foreground.endPing result).1 := by
  cases result <;> rfl

lemma foreground_beginPing (m : Moment) (c : Core) :
    (c.beginPing m).1.foreground = (c.foreground.beginPing m.foreground).1 := by
  have htimer : c.foreground.timer = c.timer := rfl
  have hnow : m.foreground.now = m.now := rfl
  cases ht : c.timer.tick? m.now with
  | none => simp only [beginPing, htimer, hnow, ht]
  | some p =>
    obtain ⟨d, t⟩ := p
    rw [beginPing_fst ht, beginPing_fst (d := d) (t := t) (by rw [htimer, hnow, ht])]
    rfl

/-- The foreground deals with an incident as if there were no background clock. -/
lemma foreground_handle (hi : i.isBackground = false) :
    (c.handle m i).1.foreground = (c.foreground.handle m.foreground i).1 := by
  by_cases hs : i.steers
  · rw [handle_fst_of_steers m hs, handle_fst_of_steers m.foreground hs]
    show ((c.adopt m _).foreground).reject _ = _
    rw [foreground_adopt]
    rfl
  · cases i with
    | due => exact foreground_beginPing m c
    | emitted result => exact foreground_endPing result c
    | signalsClosed | missed | inboundClosed => rfl
    | workerTick | workerGone => cases hi
    | _ => exact absurd rfl hs

lemma foreground_shown (c : Core) : c.shown.foreground = c.foreground.shown := by
  have he : c.foreground.emitting = c.emitting := rfl
  rw [shown, shown, he]
  split <;> rfl

/-- A turn of the foreground is the same without the background clock. -/
lemma foreground_step (hi : i.isBackground = false) :
    (c.step m i).1.foreground = (c.foreground.step m.foreground i).1 := by
  rw [step_fst, step_fst, foreground_shown, foreground_handle hi]

/-- To the foreground a turn that deals with the background clock is no turn at all. -/
lemma foreground_step_background (hi : i.isBackground) (hshown : c.shown = c) :
    (c.step m i).1.foreground = c.foreground := by
  have hsame : ∀ c' : Core, c'.foreground = c.foreground → c'.shown.foreground = c.foreground := by
    intro c' hc'
    rw [foreground_shown, hc', ← foreground_shown, hshown]
  rw [step_fst]
  cases i with
  | workerTick | workerGone => exact hsame _ rfl
  | _ => cases hi

/-- The notices depend on nothing that concerns the background clock. -/
lemma noticesOf_foreground (r : Regime) (c : Core) : c.foreground.noticesOf r = c.noticesOf r :=
  rfl

lemma awaits_foreground (hi : i.isBackground = false) :
    c.foreground.awaits m.foreground i = c.awaits m i := by
  cases i with
  | workerTick | workerGone => cases hi
  | _ => rfl

/-- A background clock has no part in the notices. -/
lemma notices_step_background (hi : i.isBackground) :
    (c.step m i).2.filterMap Effect.notice? = [] := by
  rw [notices_step]
  cases i with
  | workerTick | workerGone => exact if_pos rfl
  | _ => cases hi

/-- What is shown twice is shown once. -/
@[simp] lemma shown_shown (c : Core) : c.shown.shown = c.shown := by
  unfold shown
  split
  · rfl
  next hidle => exact if_neg hidle

lemma foreground_finish (m : Moment) (c : Core) :
    (c.finish m).1.foreground = (c.foreground.finish m.foreground).1 := by
  rw [finish_fst, finish_fst]
  rfl

end Core

namespace Watchdog

variable {config : HeartbeatConfig} {workerHeld held held' : Bool} {w : Watchdog} {h h' : Happening}
  {hs ks : List Happening}

/-! ## Happenings -/

/-- Unless a heartbeat is under way, the snapshot is up to date. -/
def Settled (w : Watchdog) : Prop := w.phase = .running → w.core.shown = w.core

lemma settled_launch (config : HeartbeatConfig) (workerHeld : Bool) :
    (launch config workerHeld).Settled := fun _ => rfl

lemma Settled.happen (hw : w.Settled) : (w.happen h).1.Settled := by
  intro hp
  cases h with
  | turn m i =>
    show (w.core.step m i).1.shown = (w.core.step m i).1
    rw [Core.step_fst, Core.shown_shown]
  | bind i =>
    have hc := hw hp
    show ({ w.core with indicators := _ } : Core).shown = _
    rw [Core.shown] at hc ⊢
    split
    · rfl
    next he =>
      rw [if_neg he] at hc
      show ({ w.core.publish.1 with indicators := _ } : Core) = _
      rw [hc]
      rfl
  | finish m => cases hp

/-- What comes from the background clock leaves the foreground as it is. -/
lemma foreground_happen_of_none (hw : w.Settled) (ha : w.allows h) (hf : h.foreground? = none) :
    (w.happen h).1.foreground = w.foreground ∧ h.isTick = false ∧
      (w.happen h).2.filterMap Effect.notice? = [] := by
  cases h with
  | bind i => cases hf
  | finish m => cases hf
  | turn m i =>
    have hi : i.isBackground := by
      by_contra hi
      rw [Happening.foreground?, if_neg hi] at hf
      cases hf
    have hp := (allows_turn_iff.mp ha).1
    refine ⟨?_, Happening.isTick_turn ?_, Core.notices_step_background hi⟩
    · show ({ w with core := (w.core.step m i).1.foreground } : Watchdog) = _
      rw [Core.foreground_step_background hi (hw hp)]
      rfl
    · rintro rfl
      cases hi

/-- What else happens is the same to the foreground without the background clock. -/
lemma foreground_happen_of_some (hf : h.foreground? = some h') :
    (w.happen h).1.foreground = (w.foreground.happen h').1 ∧
      w.foreground.allows h' = w.allows h ∧ h'.instant? = h.instant? ∧ h'.isTick = h.isTick ∧
      (w.foreground.happen h').2.filterMap Effect.notice? =
        (w.happen h).2.filterMap Effect.notice? := by
  cases h with
  | bind i =>
    cases hf
    exact ⟨rfl, rfl, rfl, rfl, rfl⟩
  | finish m =>
    cases hf
    refine ⟨?_, rfl, rfl, rfl, ?_⟩
    · show (⟨(w.core.finish m).1.foreground, .ended, []⟩ : Watchdog) = _
      rw [Core.foreground_finish]
      rfl
    · show (w.core.foreground.finish m.foreground).2.filterMap _ = (w.core.finish m).2.filterMap _
      rw [Core.notices_finish, Core.notices_finish]
  | turn m i =>
    have hi : i.isBackground = false := by
      by_contra hi
      rw [Happening.foreground?, if_pos (by simpa using hi)] at hf
      cases hf
    rw [Happening.foreground?, if_neg (by simp [hi])] at hf
    cases hf
    refine ⟨?_, ?_, rfl, ?_, ?_⟩
    · show ({ w with core := (w.core.step m i).1.foreground } : Watchdog) = _
      rw [Core.foreground_step hi]
      rfl
    · show (_ && w.core.foreground.awaits m.foreground i) = _
      rw [Core.awaits_foreground hi]
      rfl
    · cases i <;> rfl
    · show (w.core.foreground.step m.foreground i).2.filterMap _ = (w.core.step m i).2.filterMap _
      rw [Core.notices_step, Core.notices_step]
      exact Core.noticesOf_foreground _ _

/-! ## Lives -/

/-- **Without its background clock a life is that of a watchdog without one**, with the same
heartbeats and the same notices. -/
lemma lives_foreground (hw : w.Settled) (hl : w.lives hs) :
    w.foreground.lives (Happening.foreground hs) ∧
      (w.after hs).foreground = w.foreground.after (Happening.foreground hs) ∧
      w.attempts hs = w.foreground.attempts (Happening.foreground hs) ∧
      w.notices hs = w.foreground.notices (Happening.foreground hs) := by
  induction hs generalizing w with
  | nil => exact ⟨rfl, rfl, rfl, rfl⟩
  | cons h hs ih =>
    obtain ⟨ha, hl'⟩ := lives_cons.mp hl
    obtain ⟨hlives, hafter, hattempts, hnotices⟩ := ih hw.happen hl'
    rw [after_cons]
    cases hf : h.foreground? with
    | none =>
      -- the background clock: a step of the life, and none of the foreground
      obtain ⟨hsame, htick, hnone⟩ := foreground_happen_of_none hw ha hf
      rw [hsame] at hlives hafter hattempts hnotices
      rw [show Happening.foreground (h :: hs) = Happening.foreground hs from
        List.filterMap_cons_none hf]
      refine ⟨hlives, hafter, (attempts_of_isTick_eq_false ha htick).trans hattempts, ?_⟩
      rw [notices, hnone, List.nil_append, hnotices]
    | some h' =>
      obtain ⟨hsame, hallow, hinst, htick, hnote⟩ := foreground_happen_of_some (w := w) hf
      have ha' : w.foreground.allows h' := hallow.trans ha
      rw [hsame] at hlives hafter hattempts hnotices
      rw [show Happening.foreground (h :: hs) = h' :: Happening.foreground hs from
        List.filterMap_cons_some hf]
      refine ⟨lives_cons.mpr ⟨ha', hlives⟩, hafter, ?_, ?_⟩
      · rw [attempts, attempts, countP_isEmit_happen ha, countP_isEmit_happen ha', htick, hinst,
          hattempts]
      · rw [notices, notices, hnote, hnotices]

lemma foreground_launch (config : HeartbeatConfig) (workerHeld : Bool) :
    (launch config workerHeld).foreground = launch config false := rfl

/-- **The background clock never influences the foreground.**  Take any two lives that start with
the same configuration and have the same foreground, that is, the same signals, events, requests
and foreground ticks with the same answers of the channel, at the same moments.  In either of them
there may be a background clock or none; it may tick any number of times, stop taking commands and
end, whenever it likes.  Then the heartbeats of the two lives are handed to the channel at the same
instants, the indicators are told the same, and at the end there is no difference in

* whether the network is there, the interval in force, and the foreground timer with its period and
  its next deadline;
* the last foreground tick and the drift of the foreground;
* how many heartbeats were taken, how many were refused, and how many directives were malformed. -/
theorem foreground_unaffected_by_clock
    (same : Happening.foreground hs = Happening.foreground ks)
    (lives : (launch config held).lives hs) (lives' : (launch config held').lives ks) :
    let c := ((launch config held).after hs).core
    let c' := ((launch config held').after ks).core
    (launch config held).attempts hs = (launch config held').attempts ks ∧
    (launch config held).notices hs = (launch config held').notices ks ∧
    c.status.onLine = c'.status.onLine ∧
    c.status.intervalMs = c'.status.intervalMs ∧
    c.timer = c'.timer ∧
    c.lastForegroundPing? = c'.lastForegroundPing? ∧
    c.status.lastForegroundPing? = c'.status.lastForegroundPing? ∧
    c.status.foregroundDriftMs? = c'.status.foregroundDriftMs? ∧
    c.status.heartbeatsSent = c'.status.heartbeatsSent ∧
    c.status.emitFailures = c'.status.emitFailures ∧
    c.status.rejectedDirectives = c'.status.rejectedDirectives := by
  obtain ⟨-, hafter, hattempts, hnotices⟩ := lives_foreground (settled_launch config held) lives
  obtain ⟨-, hafter', hattempts', hnotices'⟩ :=
    lives_foreground (settled_launch config held') lives'
  rw [foreground_launch, same] at hafter hattempts hnotices
  rw [foreground_launch] at hafter' hattempts' hnotices'
  have hcore : ((launch config held).after hs).core.foreground =
      ((launch config held').after ks).core.foreground :=
    congrArg Watchdog.core (hafter.trans hafter'.symm)
  have hfield : ∀ {α : Type} (f : Core → α), f ((launch config held).after hs).core.foreground =
      f ((launch config held').after ks).core.foreground := fun f => congrArg f hcore
  exact ⟨hattempts.trans hattempts'.symm, hnotices.trans hnotices'.symm,
    hfield fun c => c.status.onLine, hfield fun c => c.status.intervalMs, hfield fun c => c.timer,
    hfield fun c => c.lastForegroundPing?, hfield fun c => c.status.lastForegroundPing?,
    hfield fun c => c.status.foregroundDriftMs?, hfield fun c => c.status.heartbeatsSent,
    hfield fun c => c.status.emitFailures, hfield fun c => c.status.rejectedDirectives⟩

/-- The network comes, the background clock ticks before the first heartbeat and after it, and when
another interval is asked for it takes no commands any more. -/
def clockLost : List Happening :=
  [.bind (.named "lamp"),
    .turn ⟨0, .epoch, true⟩ (.signal true),
    .turn ⟨millis 1990, .epoch, true⟩ .workerTick,
    .turn ⟨millis 2000, .epoch, true⟩ .due,
    .turn ⟨millis 2000, .epoch, true⟩ (.emitted (.ok ())),
    .turn ⟨millis 2100, .epoch, true⟩ .workerTick,
    .turn ⟨millis 3000, .epoch, false⟩ (.setInterval 5000)]

/-- The same without a background clock. -/
def clockAbsent : List Happening :=
  [.bind (.named "lamp"),
    .turn ⟨0, .epoch, true⟩ (.signal true),
    .turn ⟨millis 2000, .epoch, true⟩ .due,
    .turn ⟨millis 2000, .epoch, true⟩ (.emitted (.ok ())),
    .turn ⟨millis 3000, .epoch, true⟩ (.setInterval 5000)]

theorem foreground_unaffected_by_lost_clock :
    Happening.foreground clockLost = Happening.foreground clockAbsent ∧
      (launch {} true).lives clockLost = true ∧ (launch {} false).lives clockAbsent = true ∧
      ((launch {} true).after clockLost).core.status.backgroundTicks = 2 ∧
      ((launch {} false).after clockAbsent).core.status.backgroundTicks = 0 ∧
      (launch {} true).attempts clockLost = (launch {} false).attempts clockAbsent ∧
      ((launch {} true).after clockLost).core.timer =
        ((launch {} false).after clockAbsent).core.timer := by
  have same : Happening.foreground clockLost = Happening.foreground clockAbsent := rfl
  have hl : (launch {} true).lives clockLost = true := by decide
  have hl' : (launch {} false).lives clockAbsent = true := by decide
  obtain ⟨hattempts, -, -, -, htimer, -⟩ := foreground_unaffected_by_clock same hl hl'
  exact ⟨same, hl, hl', rfl, rfl, hattempts, htimer⟩

end Watchdog

end LinkWatch
