/-
# A turn of the event loop

What a turn can do, said once for all: `Core.Outcome` lists the ways in which an incident is dealt
with, each with the state that it leaves and with what it does to the link and to the channel.
The main statement is `Core.outcome`: dealing with an incident is always one of these ways.

An incident that changes the regime makes the loop adopt the new one (`Core.adopt`): the
foreground timer is re-timed, the background clock is told by the commands that belong to the
change, and going offline forgets the ticks before it.  No other incident concerns the regime, and
only a tick that is due hands a heartbeat to the channel.
-/
import LinkWatch.Proofs.Watchdog.Regime

namespace LinkWatch

namespace Effect

/-- The command that an effect sends, if it sends one. -/
def command? : Effect → Option ClockCommand
  | .command k => some k
  | _ => none

/-- Whether an effect hands a heartbeat to the channel. -/
def isEmit : Effect → Bool
  | .emit => true
  | _ => false

/-- Whether an effect drops the link. -/
def isRelease : Effect → Bool
  | .release => true
  | _ => false

/-- Whether an effect concerns the link to the background clock, or the channel. -/
def isAct : Effect → Bool
  | .command _ | .release | .emit => true
  | _ => false

/-- Sending a command is an act. -/
lemma filterMap_command?_acts (es : List Effect) :
    (es.filter isAct).filterMap command? = es.filterMap command? := by
  rw [List.filterMap_filter]
  refine congrArg (List.filterMap · es) (funext fun e => ?_)
  cases e <;> rfl

/-- Dropping the link is an act. -/
lemma any_isRelease_acts (es : List Effect) :
    (es.filter isAct).any isRelease = es.any isRelease := by
  rw [List.any_filter]
  refine congrArg es.any (funext fun e => ?_)
  cases e <;> rfl

/-- Handing a heartbeat to the channel is an act. -/
lemma countP_isEmit_acts (es : List Effect) :
    (es.filter isAct).countP isEmit = es.countP isEmit := by
  rw [List.countP_filter]
  refine List.countP_congr fun e _ => ?_
  cases e <;> simp [isEmit, isAct]

end Effect

namespace Core

/-- The regime in force. -/
def regime (c : Core) : Regime := ⟨c.status.onLine, c.status.intervalMs⟩

variable (m : Moment) (c : Core)

/-! ## The parts of a turn -/

lemma sendWorker_fst (k : ClockCommand) :
    (c.sendWorker m k).1 = { c with workerHeld := c.workerHeld && m.listening } := by
  obtain ⟨now, wall, listening⟩ := m
  obtain ⟨config, timer, held, status, published, ping?, tick?, indicators, emitting⟩ := c
  cases held <;> cases listening <;> rfl

/-- What is done to tell the background clock something: commands are sent to a clock that takes
them, and the link to one that takes none is dropped. -/
def tellClock (held listening : Bool) (ks : List ClockCommand) : List Effect :=
  if !held || ks.isEmpty then []
  else if listening then ks.map .command
  else [.release]

lemma sendWorker_acts (k : ClockCommand) :
    (c.sendWorker m k).2.filter Effect.isAct = tellClock c.workerHeld m.listening [k] := by
  unfold sendWorker tellClock
  cases c.workerHeld <;> cases m.listening <;> rfl

/-- Writing to the log is no act. -/
lemma log_acts {α : Type} (line : α → LogLine) (l : List α) :
    (l.map fun a => Effect.log (line a)).filter Effect.isAct = [] := by
  simp [Effect.isAct]

lemma tellIndicators_acts (online : Bool) :
    (c.tellIndicators online).2.filter Effect.isAct = [] := by
  simp [tellIndicators, Indicators.tell, Effect.isAct]

/-- What the loop makes of a new regime. -/
def adopt (r : Regime) (c : Core) : Core :=
  let left := c.status.onLine && !r.onLine
  { c with
    status.onLine := r.onLine
    status.intervalMs := r.intervalMs
    timer := c.regime.retime m.now r c.timer
    workerHeld := c.workerHeld && (m.listening || (c.regime.commands r).isEmpty)
    indicators.online := if r.onLine = c.status.onLine then c.indicators.online else r.onLine
    lastForegroundPing? := if left then none else c.lastForegroundPing?
    lastBackgroundPing? := if left then none else c.lastBackgroundPing? }

/-- What the loop does to the link when it adopts a new regime. -/
def adoptActs (r : Regime) (c : Core) : List Effect :=
  tellClock c.workerHeld m.listening (c.regime.commands r)

variable {m c} in
lemma beginPing_fst {d : ℕ} {t : Timer} (h : c.timer.tick? m.now = some (d, t)) :
    (c.beginPing m).1 = { c with
      timer := t
      status.foregroundDriftMs? :=
        (c.lastForegroundPing?.map fun last => driftMs (m.now - last) c.status.intervalMs).or
          c.status.foregroundDriftMs?
      status.lastForegroundPing? := some m.wall
      lastForegroundPing? := some m.now
      emitting := true } := by
  simp only [beginPing, h]

/-! ## Signals and requests -/

lemma goOnline_eq_adopt (h : c.status.onLine = false) :
    (c.goOnline m).1 = c.adopt m { c.regime with onLine := true } ∧
      (c.goOnline m).2.filter Effect.isAct = c.adoptActs m { c.regime with onLine := true } := by
  constructor
  · simp [goOnline, sendWorker_fst, tellIndicators, Indicators.tell, adopt, regime, h,
      Regime.retime, Regime.repace, Regime.commands]
  · simp [goOnline, sendWorker_acts, tellIndicators_acts, adoptActs, regime, h, Regime.commands,
      Effect.isAct]

lemma goOffline_eq_adopt (h : c.status.onLine = true) :
    (c.goOffline m).1 = c.adopt m { c.regime with onLine := false } ∧
      (c.goOffline m).2.filter Effect.isAct = c.adoptActs m { c.regime with onLine := false } := by
  constructor
  · simp [goOffline, sendWorker_fst, tellIndicators, Indicators.tell, adopt, regime, h,
      Regime.retime, Regime.repace, Regime.commands]
  · simp [goOffline, sendWorker_acts, tellIndicators_acts, adoptActs, regime, h, Regime.commands,
      Effect.isAct]

lemma changeInterval_eq_adopt {n : UInt64} (h : n ≠ c.status.intervalMs) :
    (c.changeInterval m n).1 = c.adopt m { c.regime with intervalMs := n } ∧
      (c.changeInterval m n).2.filter Effect.isAct =
        c.adoptActs m { c.regime with intervalMs := n } := by
  rw [changeInterval]
  rw [if_neg h]
  cases hon : c.status.onLine
  · constructor
    · simp [adopt, regime, hon, h, Regime.retime, Regime.repace, Regime.commands, Regime.interval]
    · simp [adoptActs, regime, hon, Regime.commands, tellClock, Effect.isAct]
  · constructor
    · simp [sendWorker_fst, adopt, regime, hon, h, Regime.retime, Regime.repace, Regime.commands,
        Regime.interval]
    · simp [sendWorker_acts, adoptActs, regime, hon, h, Regime.commands, Effect.isAct]

lemma applyInterval_acts (n : UInt64) :
    (c.applyInterval m n).2.filter Effect.isAct =
      (c.changeInterval m (c.config.clamp n)).2.filter Effect.isAct := by
  have h : (c.applyInterval m n).2 =
      (if c.config.clamp n = n then [] else [.log (.clamped n (c.config.clamp n))]) ++
        (c.changeInterval m (c.config.clamp n)).2 := rfl
  rw [h]
  split <;> simp [Effect.isAct]

/-- A request for an interval is dealt with in the same way wherever it comes from. -/
lemma handle_of_requestedMs? {i : Incident} {n : UInt64} (h : i.requestedMs? = some n) :
    c.handle m i = c.applyInterval m n := by
  cases i with
  | inbound e =>
    rw [Incident.requestedMs?, Event.requestedMs?] at h
    rw [handle, handleEvent]
    split at h
    next heq =>
      cases h
      rw [heq]
    next => cases h
  | setInterval n' =>
    cases h
    rfl
  | _ => cases h

/-- An event that asks for no interval is ignored or counted as malformed. -/
lemma handleEvent_of_requestedMs?_none {e : Event} (h : e.requestedMs? = none) :
    c.handleEvent m e = (c, []) ∨
      ∃ fault, c.handleEvent m e =
        ({ c with status.rejectedDirectives := c.status.rejectedDirectives + 1 },
          [.log (.rejectedDirective e.name fault)]) := by
  rw [handleEvent]
  split
  next => exact .inl rfl
  next heq =>
    rw [Event.requestedMs?, heq] at h
    cases h
  next fault _ => exact .inr ⟨fault, rfl⟩

/-! ## What a turn can do -/

/-- The ways to deal with an incident: the state afterwards, and what is done to the link and to
the channel. -/
inductive Outcome : Incident → Core → List Effect → Prop
  /-- Nothing changes. -/
  | kept {i : Incident} (h : c.regime.after c.config i = c.regime)
      (hd : i = .due → c.timer.tick? m.now = none) : Outcome i c []
  /-- The regime changes. -/
  | changed {i : Incident} (h : c.regime.after c.config i ≠ c.regime) :
      Outcome i (c.adopt m (c.regime.after c.config i)) (c.adoptActs m (c.regime.after c.config i))
  /-- A malformed directive is counted. -/
  | rejected {e : Event} (h : (Incident.inbound e).requestedMs? = none) :
      Outcome (.inbound e)
        { c with status.rejectedDirectives := c.status.rejectedDirectives + 1 } []
  /-- A tick of the background clock is counted. -/
  | counted : Outcome .workerTick (c.backgroundTick m).1 []
  /-- The background clock has gone. -/
  | lost : Outcome .workerGone { c with workerHeld := false } [.release]
  /-- A tick is taken and a heartbeat is handed to the channel. -/
  | begun {d : ℕ} {t : Timer} (h : c.timer.tick? m.now = some (d, t)) :
      Outcome .due (c.beginPing m).1 [.emit]
  /-- The channel has answered. -/
  | answered (result : Except Fault Unit) : Outcome (.emitted result) (c.endPing result).1 []

variable {m c} in
lemma outcome_of_adopt {i : Incident} {r : Regime} (hr : c.regime.after c.config i = r)
    (hne : r ≠ c.regime)
    (h : (c.handle m i).1 = c.adopt m r ∧
      (c.handle m i).2.filter Effect.isAct = c.adoptActs m r) :
    Outcome m c i (c.handle m i).1 ((c.handle m i).2.filter Effect.isAct) := by
  subst hr
  rw [h.1, h.2]
  exact .changed hne

/-- **Every incident is dealt with in one of these ways.** -/
lemma outcome (i : Incident) :
    Outcome m c i (c.handle m i).1 ((c.handle m i).2.filter Effect.isAct) := by
  cases i.kind with
  | signal online =>
    by_cases heq : online = c.status.onLine
    · -- the signal says what was known before
      rw [handle, applySignal, if_pos heq]
      exact .kept (by rw [Regime.after_signal, heq]; rfl) (by simp)
    · have hne : (⟨online, c.status.intervalMs⟩ : Regime) ≠ c.regime := fun h =>
        heq (congrArg Regime.onLine h)
      refine outcome_of_adopt (Regime.after_signal _ _ online) hne ?_
      rw [handle, applySignal, if_neg heq]
      cases online with
      | true => exact goOnline_eq_adopt m c (by simpa using heq)
      | false => exact goOffline_eq_adopt m c (by simpa using heq)
  | @request i n h =>
    have hr := Regime.after_of_requestedMs? c.config c.regime h
    have hd : i = .due → c.timer.tick? m.now = none := by
      rintro rfl
      cases h
    by_cases heq : c.config.clamp n = c.status.intervalMs
    · -- within the bounds it is the interval in force
      have hc : c.changeInterval m (c.config.clamp n) =
          (c, [.log (.unchangedInterval (c.config.clamp n))]) := if_pos heq
      have hfst : (c.handle m i).1 = c := by
        rw [handle_of_requestedMs? m c h]
        exact congrArg Prod.fst hc
      have hacts : (c.handle m i).2.filter Effect.isAct = [] := by
        rw [handle_of_requestedMs? m c h, applyInterval_acts, hc]
        rfl
      rw [hfst, hacts]
      exact .kept (by rw [hr, heq]; rfl) hd
    · refine outcome_of_adopt hr (fun h => heq (congrArg Regime.intervalMs h)) ?_
      rw [handle_of_requestedMs? m c h]
      obtain ⟨h1, h2⟩ := changeInterval_eq_adopt m c heq
      exact ⟨h1, (applyInterval_acts m c n).trans h2⟩
  | @other i h hs =>
    have hr := Regime.after_of_other c.config c.regime h hs
    cases i with
    | signal online => exact absurd rfl (hs online)
    | inbound e =>
      rw [handle]
      rcases handleEvent_of_requestedMs?_none m c h with hk | ⟨fault, hk⟩ <;> rw [hk]
      · exact .kept hr (by simp)
      · exact .rejected h
    | setInterval n => cases h
    | workerTick =>
      rw [handle]
      have hacts : (c.backgroundTick m).2.filter Effect.isAct = [] := by
        simp only [backgroundTick]
        split
        · exact log_acts ..
        · rfl
      rw [hacts]
      exact .counted
    | workerGone => exact .lost
    | due =>
      rw [handle]
      cases ht : c.timer.tick? m.now with
      | none =>
        rw [beginPing, ht]
        exact .kept hr fun _ => ht
      | some p =>
        obtain ⟨d, t⟩ := p
        have hacts : (c.beginPing m).2.filter Effect.isAct = [.emit] := by
          simp only [beginPing, ht, List.filter_append]
          split
          · rw [log_acts]
            rfl
          · rfl
        rw [hacts]
        exact .begun ht
    | emitted result =>
      cases result <;> exact .answered _
    | _ => exact .kept hr (by simp)

/-! ## What every outcome keeps -/

namespace Outcome

variable {m c} {c' : Core} {i : Incident} {acts : List Effect}

lemma config (h : Outcome m c i c' acts) : c'.config = c.config := by
  cases h with
  | begun h => rw [beginPing_fst h]
  | answered result => cases result <;> rfl
  | _ => rfl

lemma regime (h : Outcome m c i c' acts) : c'.regime = c.regime.after c.config i := by
  cases h with
  | kept h => exact h.symm
  | rejected h => exact (Regime.after_of_other _ _ h (by simp)).symm
  | begun h =>
    rw [beginPing_fst h]
    rfl
  | answered result => cases result <;> rfl
  | _ => rfl

/-- The timer is re-timed with the regime; apart from that only a tick that is taken moves it. -/
lemma timer (h : Outcome m c i c' acts) (hi : i ≠ .due) :
    c'.timer = c.regime.retime m.now (c.regime.after c.config i) c.timer := by
  cases h with
  | kept h => rw [h, Regime.retime_self]
  | changed h => rfl
  | rejected h => rw [Regime.after_of_other _ _ h (by simp), Regime.retime_self]
  | begun h => exact absurd rfl hi
  | answered result => cases result <;> exact (Regime.retime_self ..).symm
  | _ => exact (Regime.retime_self ..).symm

end Outcome

/-! ## The end of a turn -/

/-- The state once the snapshot is shown, unless a heartbeat is under way. -/
def shown (c : Core) : Core := if c.emitting then c else c.publish.1

section

variable (c : Core)

/-- Showing the snapshot leaves everything else alone. -/
lemma shown_eq : c.shown = { c with
    status := c.shown.status
    published := c.shown.published } := by
  rw [shown]
  split <;> rfl

@[simp] lemma config_shown : c.shown.config = c.config := by rw [shown_eq]

@[simp] lemma timer_shown : c.shown.timer = c.timer := by rw [shown_eq]

@[simp] lemma workerHeld_shown : c.shown.workerHeld = c.workerHeld := by rw [shown_eq]

@[simp] lemma indicators_shown : c.shown.indicators = c.indicators := by rw [shown_eq]

@[simp] lemma lastForegroundPing?_shown :
    c.shown.lastForegroundPing? = c.lastForegroundPing? := by rw [shown_eq]

@[simp] lemma emitting_shown : c.shown.emitting = c.emitting := by rw [shown_eq]

@[simp] lemma regime_shown : c.shown.regime = c.regime := by
  rw [shown]
  split <;> rfl

end

lemma step_eq (i : Incident) :
    c.step m i =
      if (c.handle m i).1.emitting then c.handle m i
      else ((c.handle m i).1.publish.1, (c.handle m i).2 ++ (c.handle m i).1.publish.2) := rfl

lemma step_fst (i : Incident) : (c.step m i).1 = (c.handle m i).1.shown := by
  rw [step_eq, shown]
  split <;> rfl

lemma publish_acts : c.publish.2.filter Effect.isAct = [] := by
  dsimp only [publish]
  split <;> rfl

lemma step_acts (i : Incident) :
    (c.step m i).2.filter Effect.isAct = (c.handle m i).2.filter Effect.isAct := by
  rw [step_eq]
  split
  · rfl
  · rw [List.filter_append, publish_acts, List.append_nil]

/-- **A turn is one of these ways, and then the snapshot is shown.** -/
lemma step_outcome (i : Incident) :
    ∃ c', (c.step m i).1 = c'.shown ∧ Outcome m c i c' ((c.step m i).2.filter Effect.isAct) :=
  ⟨_, step_fst m c i, step_acts m c i ▸ outcome m c i⟩

@[simp] lemma config_step (i : Incident) : (c.step m i).1.config = c.config := by
  obtain ⟨c', hc, h⟩ := step_outcome m c i
  rw [hc, config_shown, h.config]

/-- The regime after a turn depends on nothing but the regime before, and the incident. -/
lemma regime_step (i : Incident) : (c.step m i).1.regime = c.regime.after c.config i := by
  obtain ⟨c', hc, h⟩ := step_outcome m c i
  rw [hc, regime_shown, h.regime]

lemma timer_step {i : Incident} (hi : i ≠ .due) :
    (c.step m i).1.timer = c.regime.retime m.now (c.regime.after c.config i) c.timer := by
  obtain ⟨c', hc, h⟩ := step_outcome m c i
  rw [hc, timer_shown, h.timer hi]

variable {m c} in
/-- A tick that is taken leaves a heartbeat under way, and no snapshot is shown. -/
lemma step_due {d : ℕ} {t : Timer} (h : c.timer.tick? m.now = some (d, t)) :
    (c.step m .due).1 = (c.beginPing m).1 := by
  rw [step_fst, handle, shown, beginPing_fst h]
  rfl

/-! ## What is shown -/

section

variable (s : Status)

lemma publish_notMem_sendWorker (k : ClockCommand) : Effect.publish s ∉ (c.sendWorker m k).2 := by
  rw [sendWorker]
  split
  · split <;> simp
  · simp

lemma publish_notMem_tellIndicators (online : Bool) :
    Effect.publish s ∉ (c.tellIndicators online).2 := by
  simp [tellIndicators, Indicators.tell]

lemma publish_notMem_changeInterval (n : UInt64) :
    Effect.publish s ∉ (c.changeInterval m n).2 := by
  rw [changeInterval]
  split
  · simp
  · dsimp only
    split <;> simp [publish_notMem_sendWorker]

lemma publish_notMem_applyInterval (n : UInt64) :
    Effect.publish s ∉ (c.applyInterval m n).2 := by
  have h := publish_notMem_changeInterval m c s (c.config.clamp n)
  simp only [applyInterval, List.mem_append, not_or]
  exact ⟨by split <;> simp, h⟩

/-- While an incident is dealt with nothing is shown. -/
lemma publish_notMem_handle (i : Incident) : Effect.publish s ∉ (c.handle m i).2 := by
  cases i with
  | signal online =>
    rw [handle, applySignal]
    split
    · simp
    · split
      · simp [goOnline, publish_notMem_sendWorker, publish_notMem_tellIndicators]
      · simp [goOffline, publish_notMem_sendWorker, publish_notMem_tellIndicators]
  | inbound e =>
    rw [handle, handleEvent]
    split
    · simp
    · exact publish_notMem_applyInterval m c s _
    · simp
  | setInterval n => exact publish_notMem_applyInterval m c s n
  | workerTick =>
    rw [handle, backgroundTick]
    dsimp only
    split <;> simp
  | due =>
    rw [handle, beginPing]
    split
    · simp
    · dsimp only
      split <;> simp
  | emitted result => cases result <;> simp [handle, endPing]
  | _ => simp [handle]

end

/-- What is shown is what others see from then on. -/
lemma eq_of_publish_mem_publish {s : Status} (h : Effect.publish s ∈ c.publish.2) :
    s = c.publish.1.published := by
  unfold publish at h ⊢
  dsimp only at h ⊢
  split at h
  · cases h
  · simpa using h

lemma eq_of_publish_mem_step {i : Incident} {s : Status} (h : Effect.publish s ∈ (c.step m i).2) :
    s = (c.step m i).1.published := by
  rw [step_eq] at h ⊢
  split at h
  · exact absurd h (publish_notMem_handle m c s i)
  next he =>
    rw [if_neg he]
    rcases List.mem_append.mp h with h | h
    · exact absurd h (publish_notMem_handle m c s i)
    · exact eq_of_publish_mem_publish _ h

/-! ## The end of the loop -/

/-- At its end the loop tells the background clock to stop, shows a last snapshot and drops the
link. -/
lemma finish_snd :
    (c.finish m).2 =
      (sendWorker m .stop { c with timer := c.timer.stop }).2 ++
        (sendWorker m .stop { c with timer := c.timer.stop }).1.publish.2 ++
        [.log .stopped, .release] := rfl

lemma finish_acts :
    (c.finish m).2.filter Effect.isAct =
      tellClock c.workerHeld m.listening [.stop] ++ [.release] := by
  rw [finish_snd, List.filter_append, List.filter_append, publish_acts, List.append_nil, sendWorker_acts]
  rfl

lemma finish_fst :
    (c.finish m).1 = { c with
      timer := c.timer.stop
      workerHeld := c.workerHeld && m.listening : Core }.publish.1 := by
  have he : (c.finish m).1 =
      (sendWorker m .stop { c with timer := c.timer.stop }).1.publish.1 := rfl
  rw [he, sendWorker_fst]

lemma eq_of_publish_mem_finish {s : Status} (h : Effect.publish s ∈ (c.finish m).2) :
    s = (c.finish m).1.published := by
  rw [finish_snd, List.mem_append, List.mem_append] at h
  rcases h with (h | h) | h
  · exact absurd h (publish_notMem_sendWorker m _ s .stop)
  · exact eq_of_publish_mem_publish _ h
  · simp at h

@[simp] lemma config_finish : (c.finish m).1.config = c.config := by
  rw [finish_fst]
  rfl

/-- The end of the loop leaves the regime as it was. -/
@[simp] lemma regime_finish : (c.finish m).1.regime = c.regime := by
  rw [finish_fst]
  rfl

end Core

end LinkWatch
