/-
# Runs in virtual time

A world in virtual time serves whatever has something to say, one turn at a time, and moves the
time on when nothing has.  Each of its turns is a step of the event loop or of the background
clock, so that what it does altogether, from the start of the watchdog on, is one of their runs
(`World.run_start`, `World.run_advance`).  What holds of every run therefore holds in every world.

The event loop waits for the answer of the channel just while a heartbeat is being sent
(`World.InStep`); this is what the world and the loop have to agree about.
-/
import LinkWatch.Proofs.Watchdog.TwoTimers
import LinkWatch.Simulation.World

namespace LinkWatch

namespace Core

variable {m : Moment} {c c' : Core} {i : Incident} {acts : List Effect}

/-- A heartbeat is under way from the turn in which it is handed to the channel. -/
lemma Outcome.emitting (h : Outcome m c i c' acts) (hi : ∀ result, i ≠ .emitted result) :
    c'.emitting = true ↔ c.emitting = true ∨ Effect.emit ∈ acts := by
  cases h with
  | begun ht =>
    rw [beginPing_fst ht]
    simp
  | answered result => exact absurd rfl (hi result)
  | changed hne =>
    have hnone : Effect.emit ∉ c.adoptActs m (c.regime.after c.config i) := by
      unfold adoptActs tellClock
      split
      · simp
      · split <;> simp
    show c.emitting = true ↔ _
    simp [hnone]
  | counted => simp [backgroundTick]
  | _ => simp

/-- After a turn a heartbeat is under way just when the turn handed one to the channel. -/
lemma emitting_step_iff (haw : c.awaits m i) :
    (c.step m i).1.emitting = true ↔ Effect.emit ∈ (c.step m i).2 := by
  have hacts : Effect.emit ∈ (c.step m i).2.filter Effect.isAct ↔ Effect.emit ∈ (c.step m i).2 := by
    simp [List.mem_filter, Effect.isAct]
  rw [← hacts]
  by_cases hi : ∃ result, i = .emitted result
  · obtain ⟨result, rfl⟩ := hi
    rw [step_fst, emitting_shown, step_acts, handle]
    cases result <;> simp [endPing, Effect.isAct]
  · have hidle : c.emitting = false := by
      cases i with
      | emitted result => exact absurd ⟨result, rfl⟩ hi
      | _ => simp_all [awaits]
    obtain ⟨c', hc', ho⟩ := step_outcome m c i
    rw [hc', emitting_shown, ho.emitting (by simpa using hi), hidle]
    simp

end Core

namespace Simulation.World

open Coupled

variable {w w' : World} {i : Incident}

/-- The watchdog and its background clock, without what surrounds them. -/
def coupled (w : World) : Coupled := ⟨{ w.watchdog with requests := [] }, w.clock⟩

/-- While the event loop runs, it waits for the answer of the channel just when a heartbeat is being
sent. -/
def InStep (w : World) : Prop :=
  w.watchdog.phase = .running → (w.sending?.isSome ↔ w.watchdog.core.emitting = true)

/-! ## Effects -/

lemma watchdog_perform (e : Effect) (w : World) : (w.perform e).watchdog = w.watchdog := by
  cases e with
  | command k =>
    rw [perform]
    dsimp only
    split <;> rfl
  | notice n =>
    unfold perform tell
    dsimp only
    split <;> rfl
  | _ => rfl

lemma clock_perform (e : Effect) (w : World) :
    (w.perform e).clock = { w.clock with link := w.clock.link.perform e } := by
  cases e with
  | command k =>
    unfold perform Link.perform
    dsimp only
    split <;> simp_all
  | notice n =>
    unfold perform tell
    dsimp only
    split <;> rfl
  | _ => rfl

lemma isSome_sending?_perform (e : Effect) (w : World) :
    (w.perform e).sending?.isSome ↔ w.sending?.isSome ∨ e = .emit := by
  cases e with
  | command k =>
    rw [perform]
    dsimp only
    split <;> simp
  | notice n =>
    unfold perform tell
    dsimp only
    split <;> simp [observe]
  | _ => simp [perform, observe]

lemma watchdog_performAll (es : List Effect) (w : World) :
    (w.performAll es).watchdog = w.watchdog := by
  induction es generalizing w with
  | nil => rfl
  | cons e es ih => exact (ih (w.perform e)).trans (watchdog_perform e w)

lemma clock_performAll (es : List Effect) (w : World) :
    (w.performAll es).clock = { w.clock with link := w.clock.link.performAll es } := by
  induction es generalizing w with
  | nil => rfl
  | cons e es ih =>
    refine (ih (w.perform e)).trans ?_
    rw [clock_perform]
    rfl

lemma isSome_sending?_performAll (es : List Effect) (w : World) :
    (w.performAll es).sending?.isSome ↔ w.sending?.isSome ∨ Effect.emit ∈ es := by
  induction es generalizing w with
  | nil => simp [performAll]
  | cons e es ih =>
    refine (ih (w.perform e)).trans ?_
    rw [isSome_sending?_perform, List.mem_cons, @eq_comm _ e, or_assoc]

/-! ## Turns of the event loop -/

/-- A world in which something was taken from what surrounds the watchdog and its clock, or from the
link, for the event loop to deal with. -/
structure Offers (w w' : World) : Prop where
  core : w'.watchdog.core = w.watchdog.core
  phase : w'.watchdog.phase = w.watchdog.phase
  clock? : w'.clock.clock? = w.clock.clock?
  now : w'.now = w.now
  epoch : w'.epoch = w.epoch

/-- When the event loop deals with what it is offered, it makes a step. -/
lemma step_turn (h : Offers w w') (hidle : w'.sending? = none) (hp : w.watchdog.phase = .running)
    (haw : w.watchdog.core.awaits (w.moment w.now) i)
    (heard : w.clock.link.heard? (.turn (w.moment w.now) i) = some w'.clock.link) :
    ∃ m, Step w.coupled m (w'.turn i).coupled ∧ (w'.turn i).InStep := by
  obtain ⟨n, hn⟩ := Link.heard?_eq_some heard
  have hmoment : w'.moment w'.now = w.moment w.now := by
    rw [moment, moment, h.now, h.epoch, hn]
  have hturn : w'.turn i = { w' with
      watchdog.core := (w.watchdog.core.step (w.moment w.now) i).1 }.performAll
        (w.watchdog.core.step (w.moment w.now) i).2 := by
    rw [turn, hmoment, h.core]
  have hcoupled : (w'.turn i).coupled =
      ⟨(w.coupled.watchdog.happen (.turn (w.moment w.now) i)).1,
        ⟨w'.clock.link.performAll (w.coupled.watchdog.happen (.turn (w.moment w.now) i)).2,
          w.clock.clock?⟩⟩ := by
    rw [hturn, coupled, watchdog_performAll, clock_performAll]
    show Coupled.mk ⟨_, w'.watchdog.phase, []⟩ ⟨_, w'.clock.clock?⟩ = _
    rw [h.phase, h.clock?]
    rfl
  refine ⟨.watchdog (.turn (w.moment w.now) i), ?_, ?_⟩
  · rw [hcoupled]
    refine Step.watchdog ?_ rfl heard
    exact Watchdog.allows_turn_iff.mpr ⟨hp, haw⟩
  · intro _
    rw [hturn, isSome_sending?_performAll, watchdog_performAll, Core.emitting_step_iff haw]
    simp [hidle]

lemma watchdog_setInbound (b : Broadcast Event) (w : World) :
    (w.setInbound b).watchdog = w.watchdog := by
  rw [setInbound]
  split <;> rfl

lemma clock_setInbound (b : Broadcast Event) (w : World) : (w.setInbound b).clock = w.clock := by
  rw [setInbound]
  split <;> rfl

lemma sending?_setInbound (b : Broadcast Event) (w : World) :
    (w.setInbound b).sending? = w.sending? := by
  rw [setInbound]
  split <;> rfl

lemma offers_setInbound (b : Broadcast Event) (w : World) : Offers w (w.setInbound b) := by
  rw [setInbound]
  split <;> exact ⟨rfl, rfl, rfl, rfl, rfl⟩

lemma watchdog_finish (w : World) :
    w.finish.watchdog = (w.watchdog.finish (w.moment w.now)).1 := by
  rw [finish]
  dsimp only
  split
  · rw [watchdog_setInbound, watchdog_performAll]
  · rw [watchdog_performAll]

/-- The end of the event loop is a step of it. -/
lemma step_finish (hp : w.watchdog.phase = .running) (haw : w.watchdog.core.emitting = false) :
    ∃ m, Step w.coupled m w.finish.coupled ∧ w.finish.InStep := by
  have hwatchdog := w.watchdog_finish
  have hclock : w.finish.clock = { w.clock with
      link := w.clock.link.performAll (w.watchdog.finish (w.moment w.now)).2 } := by
    rw [finish]
    dsimp only
    split
    · rw [clock_setInbound, clock_performAll]
    · rw [clock_performAll]
  have hcoupled : w.finish.coupled = ⟨{ w.finish.watchdog with requests := [] }, w.finish.clock⟩ :=
    rfl
  refine ⟨.watchdog (.finish (w.moment w.now)), ?_, ?_⟩
  · rw [hcoupled, hwatchdog, hclock]
    refine Step.watchdog (h := .finish (w.moment w.now)) ?_ rfl rfl
    exact Watchdog.allows_finish_iff.mpr ⟨hp, haw⟩
  · intro hrunning
    rw [hwatchdog] at hrunning
    cases hrunning

section Idle

variable (hidle : w.sending? = none) (hp : w.watchdog.phase = .running)
  (haw : w.watchdog.core.emitting = false)

include hidle hp haw

lemma step_of_signalTurn? (h : w.signalTurn? = some w') :
    ∃ m, Step w.coupled m w'.coupled ∧ w'.InStep := by
  obtain ⟨s, hs, h⟩ := Option.bind_eq_some_iff.mp h
  split at h
  · cases h
  · split at h
    · cases h
      refine step_turn ⟨rfl, rfl, rfl, rfl, rfl⟩ hidle hp ?_ rfl
      simp [Core.awaits, haw]
    · split at h
      · cases h
      · cases h
        refine step_turn ⟨rfl, rfl, rfl, rfl, rfl⟩ hidle hp ?_ rfl
        simp [Core.awaits, haw]

lemma step_of_inboundTurn? (h : w.inboundTurn? = some w') :
    ∃ m, Step w.coupled m w'.coupled ∧ w'.InStep := by
  simp only [inboundTurn?, Option.bind_eq_bind, Option.bind_eq_some_iff] at h
  obtain ⟨id, -, ⟨received, b⟩, -, h⟩ := h
  have hoffers := offers_setInbound b w
  have hturn : ∀ (i : Incident) (w₁ : World), Offers w w₁ →
      w₁.sending? = (w.setInbound b).sending? → w₁.clock = (w.setInbound b).clock →
      w.watchdog.core.awaits (w.moment w.now) i →
      w.clock.link.heard? (.turn (w.moment w.now) i) = some w.clock.link →
      ∃ m, Step w.coupled m (w₁.turn i).coupled ∧ (w₁.turn i).InStep := by
    intro i w₁ h hs hc haw heard
    rw [sending?_setInbound] at hs
    rw [clock_setInbound] at hc
    exact step_turn h (hs.trans hidle) hp haw (by rw [heard, hc])
  cases received with
  | item e =>
    cases h
    exact hturn _ _ hoffers rfl rfl (by simp [Core.awaits, haw]) rfl
  | lagged missed =>
    cases h
    exact hturn _ _ hoffers rfl rfl (by simp [Core.awaits, haw]) rfl
  | closed =>
    cases h
    have hoffers' : Offers w { w.setInbound b with subscription? := none } :=
      ⟨hoffers.core, hoffers.phase, hoffers.clock?, hoffers.now, hoffers.epoch⟩
    exact hturn _ _ hoffers' rfl rfl (by simp [Core.awaits, haw]) rfl
  | nothing => cases h

lemma step_of_workerTurn? (h : w.workerTurn? = some w') :
    ∃ m, Step w.coupled m w'.coupled ∧ w'.InStep := by
  rw [workerTurn?] at h
  split at h
  next hheld =>
    split at h
    next rest hr =>
      cases h
      refine step_turn ⟨rfl, rfl, rfl, rfl, rfl⟩ hidle hp ?_ ?_
      · simp [Core.awaits, haw, hheld]
      · simp [Link.heard?, hr]
    next hr =>
      cases h
      refine step_turn ⟨rfl, rfl, rfl, rfl, rfl⟩ hidle hp ?_ ?_
      · simp [Core.awaits, haw, hheld]
      · simp [Link.heard?, hr]
    next => cases h
  next => cases h

lemma step_of_timerTurn? (h : w.timerTurn? = some w') :
    ∃ m, Step w.coupled m w'.coupled ∧ w'.InStep := by
  rw [timerTurn?] at h
  split at h
  next hdue =>
    cases h
    refine step_turn ⟨rfl, rfl, rfl, rfl, rfl⟩ hidle hp ?_ rfl
    simp only [Core.awaits, haw]
    exact hdue
  next => cases h

lemma step_of_requestTurn? (h : w.requestTurn? = some w') :
    ∃ m, Step w.coupled m w'.coupled ∧ w'.InStep := by
  rw [requestTurn?] at h
  split at h
  · cases h
  · cases h
    refine step_turn ⟨rfl, rfl, rfl, rfl, rfl⟩ hidle hp ?_ rfl
    simp [Core.awaits, haw]
  · cases h
    exact step_finish hp haw

end Idle

/-- The answer of the channel is what the event loop waits for. -/
lemma step_deliver (s : Sending) (hp : w.watchdog.phase = .running)
    (haw : w.watchdog.core.emitting = true) :
    ∃ m, Step w.coupled m (w.deliver s).coupled ∧ (w.deliver s).InStep := by
  have hturn : ∀ (result : Except Fault Unit) (w₁ : World), Offers w w₁ → w₁.sending? = none →
      w₁.clock.link = w.clock.link →
      ∃ m, Step w.coupled m (w₁.turn (.emitted result)).coupled ∧
        (w₁.turn (.emitted result)).InStep := by
    intro result w₁ h hs hl
    exact step_turn h hs hp haw (by rw [hl]; rfl)
  rw [deliver]
  dsimp only
  split
  · exact hturn _ _ ⟨rfl, rfl, rfl, rfl, rfl⟩ rfl rfl
  · exact hturn _ _ ⟨rfl, rfl, rfl, rfl, rfl⟩ rfl rfl

/-- **A turn of the event loop in virtual time is a step.** -/
lemma step_of_loopTurn? (hw : w.InStep) (h : w.loopTurn? = some w') :
    ∃ m, Step w.coupled m w'.coupled ∧ w'.InStep := by
  rw [loopTurn?] at h
  split at h
  · cases h
  next hp =>
    have hp : w.watchdog.phase = .running := by simpa using hp
    split at h
    next s hs =>
      split at h
      · cases h
        exact step_deliver s hp ((hw hp).mp (by rw [hs]; rfl))
      · cases h
    next hidle =>
      have haw : w.watchdog.core.emitting = false := by
        have hiff := hw hp
        rw [hidle] at hiff
        simpa using hiff
      simp only [Option.or_eq_some_iff] at h
      rcases h with h | ⟨-, h | ⟨-, h | ⟨-, h | ⟨-, h⟩⟩⟩⟩
      · exact step_of_signalTurn? hidle hp haw h
      · exact step_of_inboundTurn? hidle hp haw h
      · exact step_of_requestTurn? hidle hp haw h
      · exact step_of_workerTurn? hidle hp haw h
      · exact step_of_timerTurn? hidle hp haw h

/-- A turn of the background clock in virtual time is a step. -/
lemma step_of_clockTurn? (hw : w.InStep) (h : w.clockTurn? = some w') :
    ∃ m, Step w.coupled m w'.coupled ∧ w'.InStep := by
  obtain ⟨⟨turn, clock⟩, hturn, h⟩ := Option.map_eq_some_iff.mp h
  obtain ⟨m, hm⟩ := step_of_turn? (w := w.coupled.watchdog) hturn
  have hsame : w'.watchdog = w.watchdog ∧ w'.clock = clock ∧ w'.sending? = w.sending? := by
    rw [← h]
    dsimp only
    split <;> exact ⟨rfl, rfl, rfl⟩
  obtain ⟨hwatchdog, hclock, hsending⟩ := hsame
  have hcoupled : w'.coupled = ⟨{ w'.watchdog with requests := [] }, w'.clock⟩ := rfl
  refine ⟨m, ?_, ?_⟩
  · rw [hcoupled, hwatchdog, hclock]
    exact hm
  · rw [InStep]
    rw [hwatchdog, hsending]
    exact hw

/-! ## Runs -/

lemma run_settleIn (turns : ℕ) (hw : w.InStep) :
    ∃ ms, Run w.coupled ms (settleIn turns w).coupled ∧ (settleIn turns w).InStep := by
  induction turns generalizing w with
  | zero => exact ⟨[], .start, hw⟩
  | succ turns ih =>
    rw [settleIn]
    split
    next w' h =>
      have hstep : ∃ m, Step w.coupled m w'.coupled ∧ w'.InStep := by
        rcases Option.or_eq_some_iff.mp h with h | ⟨-, h⟩
        · exact step_of_clockTurn? hw h
        · exact step_of_loopTurn? hw h
      obtain ⟨m, hm, hw'⟩ := hstep
      obtain ⟨ms, hms, hlast⟩ := ih hw'
      exact ⟨m :: ms, hm.run.trans hms, hlast⟩
    next => exact ⟨[], .start, hw⟩

/-- **What happens at one time is a run.** -/
theorem run_settle (hw : w.InStep) :
    ∃ ms, Run w.coupled ms w.settle.coupled ∧ w.settle.InStep :=
  run_settleIn _ hw

lemma run_advanceIn (finish moves : ℕ) (hw : w.InStep) :
    ∃ ms, Run w.coupled ms (advanceIn finish moves w).coupled ∧
      (advanceIn finish moves w).InStep := by
  induction moves generalizing w with
  | zero => exact ⟨[], .start, hw⟩
  | succ moves ih =>
    rw [advanceIn]
    split
    next time _ =>
      split
      next =>
        -- the time moves on, and then everything happens that can happen
        obtain ⟨ms, hms, hw'⟩ := run_settle (w := { w with now := max w.now time }) hw
        obtain ⟨ns, hns, hlast⟩ := ih hw'
        exact ⟨ms ++ ns, Run.trans hms hns, hlast⟩
      next => exact ⟨[], .start, hw⟩
    next => exact ⟨[], .start, hw⟩

/-- **What happens while the time moves on is a run.** -/
theorem run_advance (ms : ℕ) (hw : w.InStep) :
    ∃ moves, Run w.coupled moves (w.advance ms).coupled ∧ (w.advance ms).InStep := by
  obtain ⟨ns, hns, hw'⟩ := run_settle hw
  obtain ⟨ks, hks, hlast⟩ := run_advanceIn (w.now + ms) (ms + 1) hw'
  exact ⟨ns ++ ks, hns.trans hks, hlast⟩

/-- Starting the watchdog leaves a world to itself in which nothing but the phase has changed. -/
lemma start_eq_settle (h : w.watchdog.phase = .ready) :
    ∃ w' : World, w.start.2 = w'.settle ∧ w'.watchdog = { w.watchdog with phase := .running } ∧
      w'.clock = w.clock ∧ w'.sending? = w.sending? := by
  unfold start Watchdog.start
  rw [if_pos h]
  dsimp only
  rw [if_pos rfl]
  refine ⟨_, rfl, ?_, ?_, ?_⟩
  · exact watchdog_setInbound _ _
  · exact clock_setInbound _ _
  · exact sending?_setInbound _ _

/-- **What happens from the start of a new world on is a run.** -/
theorem run_start {config : HeartbeatConfig} (h : World.new config (some .new) = .ok w) :
    config.validate = .ok () ∧
      ∃ ms, Run (Coupled.launch config) ms w.start.2.coupled ∧ w.start.2.InStep := by
  have hnew : World.new config (some .new) =
      (Watchdog.new config true).map fun watchdog => { watchdog, clock := .new } := rfl
  rw [hnew, Watchdog.new] at h
  split at h
  next hv =>
    obtain ⟨w', hw', hwatchdog, hclock, hsending⟩ := start_eq_settle (w := w) (by cases h; rfl)
    have hcoupled : w'.coupled = Coupled.launch config := by
      show Coupled.mk { w'.watchdog with requests := [] } w'.clock = _
      rw [hwatchdog, hclock]
      cases h
      rfl
    have hinstep : w'.InStep := by
      intro _
      rw [hsending, hwatchdog]
      cases h
      constructor <;> intro h <;> cases h
    rw [hw', ← hcoupled]
    exact ⟨hv, run_settle hinstep⟩
  next => cases h

end Simulation.World

end LinkWatch
