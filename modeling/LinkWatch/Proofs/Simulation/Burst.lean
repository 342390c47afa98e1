/-
# Bursts of events

The server may send any number of events before the event loop looks again.  The channel keeps the
newest of them for the loop, which takes them one after the other, after it was told how many it has
missed (`World.Reads`).

All that comes of a burst is the interval that the last well-formed directive among the events asks
for, moved into the bounds, and the number of malformed directives (`Core.Retuned`).  The main
statement is `World.burst_retunes`: it says which events are dealt with, and what is left when there
is nothing more to read.
-/
import LinkWatch.Proofs.Channel.Unread
import LinkWatch.Proofs.Simulation.VirtualTime
import LinkWatch.Proofs.Watchdog.NothingNew
import LinkWatch.Proofs.Watchdog.Simultaneous
import Mathlib.Data.List.DropRight

namespace LinkWatch

/-- Whether an event is a directive with a payload that is none of a directive. -/
def Event.malformed (e : Event) : Bool :=
  match Directive.ofEvent? e with
  | some (.error _) => true
  | _ => false

namespace Incident

/-- Whether an incident comes from the server. -/
def isInbound : Incident → Bool
  | .inbound _ | .missed _ => true
  | _ => false

/-- Whether an incident is a malformed directive. -/
def malformed : Incident → Bool
  | .inbound e => e.malformed
  | _ => false

lemma rejections_eq (i : Incident) : i.rejections = i.malformed.toNat := by
  cases i with
  | inbound e =>
    rw [rejections, malformed, Event.malformed]
    cases Directive.ofEvent? e with
    | none => rfl
    | some d => cases d <;> rfl
  | _ => rfl

end Incident

namespace Regime

variable {config : HeartbeatConfig} {r : Regime}

/-- What the server says leaves the network as it is. -/
lemma after_inbound (config : HeartbeatConfig) (r : Regime) (e : Event) :
    r.after config (.inbound e) =
      { r with intervalMs := (e.requestedMs?.map config.clamp).getD r.intervalMs } := by
  cases h : e.requestedMs? with
  | none => exact after_of_other config r h nofun
  | some n => exact after_of_requestedMs? config r h

/-- Of the events of the server the last one that asks for an interval sets it. -/
lemma foldl_after_inbound (config : HeartbeatConfig) (r : Regime) (es : List Event) :
    (es.map Incident.inbound).foldl (after config) r =
      { r with
        intervalMs := ((es.filterMap Event.requestedMs?).getLast?.map config.clamp).getD
          r.intervalMs } := by
  -- induction on the events, the latest first
  induction es using List.reverseRecOn with
  | nil => rfl
  | append_singleton es e ih =>
    rw [List.map_append, List.foldl_append, ih, List.filterMap_append, List.getLast?_append]
    refine (after_inbound config _ e).trans ?_
    cases he : e.requestedMs? <;> simp [he]

/-- A new interval leaves a timer running or not. -/
lemma isRunning_repace (now : ℕ) (r r' : Regime) (t : Timer) :
    (r.repace now r' t).isRunning = t.isRunning := by
  rw [repace]
  split
  · rfl
  · exact Timer.isRunning_setPeriod ..

end Regime

namespace Core

variable {config : HeartbeatConfig} {m : Moment} {c c' c'' : Core} {i : Incident} {n n' : UInt64}
  {k k' : ℕ}

/-! ## What is left as it was -/

/-- The state `c'` differs from `c` in the interval, which is `n` now, and in the number of
malformed directives, which has grown by `k`; beyond that only the deadline and the period of the
timer may be others, and the link may be lost. -/
structure Retuned (n : UInt64) (k : ℕ) (c c' : Core) : Prop where
  status : c'.status = { c.status with
    intervalMs := n
    rejectedDirectives := c.status.rejectedDirectives + k
    workerAvailable := c'.status.workerAvailable }
  isRunning : c'.timer.isRunning = c.timer.isRunning
  lastForegroundPing? : c'.lastForegroundPing? = c.lastForegroundPing?
  lastBackgroundPing? : c'.lastBackgroundPing? = c.lastBackgroundPing?
  indicators : c'.indicators = c.indicators
  config : c'.config = c.config
  emitting : c'.emitting = c.emitting

lemma retuned_refl (c : Core) : Retuned c.status.intervalMs 0 c c :=
  ⟨rfl, rfl, rfl, rfl, rfl, rfl, rfl⟩

lemma Retuned.trans (h : Retuned n k c c') (h' : Retuned n' k' c' c'') :
    Retuned n' (k + k') c c'' where
  status := by
    rw [h'.status, h.status, ← Nat.add_assoc]
  isRunning := h'.isRunning.trans h.isRunning
  lastForegroundPing? := h'.lastForegroundPing?.trans h.lastForegroundPing?
  lastBackgroundPing? := h'.lastBackgroundPing?.trans h.lastBackgroundPing?
  indicators := h'.indicators.trans h.indicators
  config := h'.config.trans h.config
  emitting := h'.emitting.trans h.emitting

/-- An event of the server retunes the event loop. -/
lemma retuned_inbound (hshown : c.shown = c) (hidle : c.emitting = false) (e : Event) :
    Retuned (c.regime.after c.config (.inbound e)).intervalMs (Incident.inbound e).rejections c
      (c.step m (.inbound e)).1 := by
  rw [step_fst_of_steers rfl, Regime.after_inbound]
  generalize (e.requestedMs?.map c.config.clamp).getD c.regime.intervalMs = n
  generalize (Incident.inbound e).rejections = k
  let r : Regime := { c.regime with intervalMs := n }
  have hrunning : (c.regime.retime m.now r c.timer).isRunning = c.timer.isRunning := by
    rw [Regime.retime, if_pos rfl, Regime.isRunning_repace]
  have hstatus : c.status.foregroundRunning = c.timer.isRunning :=
    (congrArg (·.1.status.foregroundRunning) (publish_of_shown hshown hidle)).symm
  have hnext : ((c.adopt m r).reject k).shown = ((c.adopt m r).reject k).publish.1 :=
    if_neg (by simp [adopt, reject, hidle])
  show Retuned n k c ((c.adopt m r).reject k).shown
  rw [hnext]
  refine ⟨?_, hrunning, ?_, ?_, ?_, rfl, rfl⟩
  · have hstatus' : ((c.adopt m r).reject k).publish.1.status = { c.status with
        intervalMs := n
        foregroundRunning := (c.regime.retime m.now r c.timer).isRunning
        workerAvailable := (c.adopt m r).workerHeld
        rejectedDirectives := c.status.rejectedDirectives + k } := rfl
    rw [hstatus', hrunning, ← hstatus]
  · simp [publish, adopt, reject, r, regime]
  · simp [publish, adopt, reject, r, regime]
  · simp [publish, adopt, reject, r, regime]

/-- What comes from the server retunes the event loop. -/
lemma retuned_step (hshown : c.shown = c) (hidle : c.emitting = false) (hi : i.isInbound) :
    Retuned (c.regime.after c.config i).intervalMs i.rejections c (c.step m i).1 := by
  cases i with
  | inbound e => exact retuned_inbound hshown hidle e
  | missed count =>
    rw [(step_of_ignores (m := m) hshown hidle (i := .missed count) rfl).1]
    exact retuned_refl c
  | _ => cases hi

end Core

namespace Simulation.World

variable {config : HeartbeatConfig} {w w₁ w' : World} {i : Incident} {is : List Incident}
  {id position : ℕ}

/-! ## Reading what the channel keeps -/

/-- What the event loop is offered by its source of events, if there is anything, and the world in
which it has been taken. -/
def offer? (w : World) : Option (Incident × World) := do
  let id ← w.subscription?
  let (received, b) ← w.inbound.receive? id
  match received with
  | .item e => some (.inbound e, w.setInbound b)
  | .lagged missed => some (.missed missed, w.setInbound b)
  | .closed => some (.inboundClosed, { w.setInbound b with subscription? := none })
  | .nothing => none

/-- The event loop deals with what it is offered. -/
lemma inboundTurn?_eq (w : World) : w.inboundTurn? = w.offer?.map fun o => o.2.turn o.1 := by
  rw [inboundTurn?, offer?]
  cases w.subscription? with
  | none => rfl
  | some id =>
    cases hr : w.inbound.receive? id with
    | none => simp [hr]
    | some r =>
      obtain ⟨received, b⟩ := r
      cases received <;> simp [hr]

/-- The event loop takes one thing after the other from its source of events, until there is nothing
left.  Between two turns time may pass, and the background clock may do whatever it does. -/
inductive Reads : World → List Incident → World → Prop
  | done {w : World} (nothing : w.inboundTurn? = none) : Reads w [] w
  | turn {w w₁ w' : World} {i : Incident} {is : List Incident} (offers : w.offer? = some (i, w₁))
      (rest : Reads (w₁.turn i) is w') : Reads w (i :: is) w'
  | pass {w w' : World} {is : List Incident} (now : ℕ) (clock : WiredClock)
      (rest : Reads { w with now, clock } is w') : Reads w is w'

/-- The event loop reads the channel from a position on. -/
structure Listens (id position : ℕ) (w : World) : Prop where
  source : w.ownInbound? = none
  subscription? : w.subscription? = some id
  position? : w.channel.inbound.position? id = some position

/-- What the event loop does leaves the channel and the subscription alone. -/
lemma perform_eq (e : Effect) (w : World) :
    (w.perform e).channel = w.channel ∧ (w.perform e).ownInbound? = w.ownInbound? ∧
      (w.perform e).subscription? = w.subscription? := by
  cases e with
  | command k =>
    unfold perform
    dsimp only
    split <;> exact ⟨rfl, rfl, rfl⟩
  | notice n =>
    unfold perform tell
    dsimp only
    split <;> exact ⟨rfl, rfl, rfl⟩
  | _ => exact ⟨rfl, rfl, rfl⟩

lemma performAll_eq (es : List Effect) (w : World) :
    (w.performAll es).channel = w.channel ∧ (w.performAll es).ownInbound? = w.ownInbound? ∧
      (w.performAll es).subscription? = w.subscription? := by
  induction es generalizing w with
  | nil => exact ⟨rfl, rfl, rfl⟩
  | cons e es ih =>
    obtain ⟨hchannel, hsource, hsubscription⟩ := perform_eq e w
    obtain ⟨hchannel', hsource', hsubscription'⟩ := ih (w.perform e)
    exact ⟨hchannel'.trans hchannel, hsource'.trans hsource, hsubscription'.trans hsubscription⟩

lemma channel_turn (i : Incident) (w : World) : (w.turn i).channel = w.channel :=
  (performAll_eq _ _).1

lemma Listens.turn (h : w.Listens id position) (i : Incident) : (w.turn i).Listens id position where
  source := (performAll_eq _ _).2.1.trans h.source
  subscription? := (performAll_eq _ _).2.2.trans h.subscription?
  position? := by
    rw [channel_turn]
    exact h.position?

/-- The event loop has moved on to a position. -/
def moveTo (id position : ℕ) (w : World) : World :=
  { w with channel.inbound := w.channel.inbound.moveTo id position }

lemma Listens.moveTo (h : w.Listens id position) (next : ℕ) :
    (w.moveTo id next).Listens id next where
  source := h.source
  subscription? := h.subscription?
  position? := Broadcast.position?_moveTo (by rw [h.position?]; rfl)

/-- The event loop is offered what it finds at its position. -/
lemma Listens.offer?_eq (h : w.Listens id position) :
    w.offer? =
      match w.channel.inbound.look position with
      | (.item e, next) => some (.inbound e, w.moveTo id next)
      | (.lagged missed, next) => some (.missed missed, w.moveTo id next)
      | (.closed, next) => some (.inboundClosed, { w.moveTo id next with subscription? := none })
      | (.nothing, _) => none := by
  have hinbound : w.inbound = w.channel.inbound := by
    rw [inbound, h.source]
    rfl
  have hmoved : ∀ next, w.setInbound (w.channel.inbound.moveTo id next) = w.moveTo id next := by
    intro next
    rw [setInbound, if_neg (by simp [h.source])]
    rfl
  rw [offer?, h.subscription?, hinbound]
  simp only [Option.bind_eq_bind, Option.bind_some, Broadcast.receive?_of_position? h.position?,
    hmoved]
  cases hlook : w.channel.inbound.look position with
  | mk received next => cases received <;> rfl

/-- What is to be dealt with when the channel is read from a position on: the news that events were
missed, if any were, and the events that are still there. -/
def arrivals (position : ℕ) (b : Broadcast Event) : List Incident :=
  (if position < b.forgotten then [.missed (b.forgotten - position)] else []) ++
    (b.unread (max position b.forgotten)).map .inbound

/-- The event loop is offered the first thing that is to be dealt with, or nothing if there is
none. -/
lemma Listens.offer?_cases (h : w.Listens id position)
    (hclosed : w.channel.inbound.closed = false) :
    (w.offer? = none ∧ arrivals position w.channel.inbound = []) ∨
      ∃ i next, w.offer? = some (i, w.moveTo id next) ∧
        arrivals position w.channel.inbound = i :: arrivals next w.channel.inbound := by
  rw [h.offer?_eq]
  by_cases hbehind : position < w.channel.inbound.forgotten
  · rw [Broadcast.look_of_lt hbehind]
    refine .inr ⟨_, _, rfl, ?_⟩
    simp [arrivals, hbehind, Nat.max_eq_right hbehind.le]
  · have hle := Nat.not_lt.mp hbehind
    cases hu : w.channel.inbound.unread position with
    | nil =>
      rw [Broadcast.look_of_unread_nil hle hclosed hu]
      refine .inl ⟨rfl, ?_⟩
      simp [arrivals, hbehind, Nat.max_eq_left hle, hu]
    | cons e es =>
      obtain ⟨hlook, hrest⟩ := Broadcast.look_of_unread hle hu
      rw [hlook]
      refine .inr ⟨_, _, rfl, ?_⟩
      have hnext : ¬position + 1 < w.channel.inbound.forgotten := by omega
      simp [arrivals, hbehind, hnext, Nat.max_eq_left hle, Nat.max_eq_left (Nat.le_succ_of_le hle),
        hu, hrest]

lemma inboundTurn?_eq_none_iff : w.inboundTurn? = none ↔ w.offer? = none := by
  rw [inboundTurn?_eq, Option.map_eq_none_iff]

/-- The event loop can deal with all that is to be dealt with. -/
lemma Listens.exists_reads (h : w.Listens id position)
    (hclosed : w.channel.inbound.closed = false) :
    ∃ w', Reads w (arrivals position w.channel.inbound) w' := by
  -- induction on what is to be dealt with
  generalize hi : arrivals position w.channel.inbound = is
  induction is generalizing w position with
  | nil =>
    rcases h.offer?_cases hclosed with ⟨hnone, -⟩ | ⟨i, next, -, harrivals⟩
    · exact ⟨w, .done (inboundTurn?_eq_none_iff.mpr hnone)⟩
    · rw [hi] at harrivals
      cases harrivals
  | cons i is ih =>
    rcases h.offer?_cases hclosed with ⟨-, hempty⟩ | ⟨j, next, hoffer, harrivals⟩
    · rw [hi] at hempty
      cases hempty
    · obtain ⟨rfl, hrest⟩ := List.cons.inj (hi.symm.trans harrivals)
      have hchannel := channel_turn i (w.moveTo id next)
      obtain ⟨w', hreads⟩ := ih ((h.moveTo next).turn i) (by rw [hchannel]; exact hclosed)
        (by rw [hchannel]; exact hrest.symm)
      exact ⟨w', .turn hoffer hreads⟩

/-- The event loop deals with this and nothing else. -/
lemma Reads.eq_arrivals (hreads : Reads w is w') (h : w.Listens id position)
    (hclosed : w.channel.inbound.closed = false) :
    is = arrivals position w.channel.inbound ∧ w'.inboundTurn? = none ∧
      w'.subscription? = some id := by
  induction hreads generalizing position with
  | done nothing =>
    rcases h.offer?_cases hclosed with ⟨-, hempty⟩ | ⟨i, next, hoffer, -⟩
    · exact ⟨hempty.symm, nothing, h.subscription?⟩
    · rw [inboundTurn?_eq_none_iff, hoffer] at nothing
      cases nothing
  | @turn w w₁ w' i is offers rest ih =>
    rcases h.offer?_cases hclosed with ⟨hnone, -⟩ | ⟨j, next, hoffer, harrivals⟩
    · rw [hnone] at offers
      cases offers
    · rw [hoffer] at offers
      cases offers
      have hchannel := channel_turn i (w.moveTo id next)
      obtain ⟨hrest, hlast⟩ := ih ((h.moveTo next).turn i) (by rw [hchannel]; exact hclosed)
      rw [hchannel] at hrest
      have hdealt : i :: is = i :: arrivals next w.channel.inbound := congrArg (i :: ·) hrest
      exact ⟨hdealt.trans harrivals.symm, hlast⟩
  | pass now clock rest ih => exact ih ⟨h.source, h.subscription?, h.position?⟩ hclosed

/-! ## Dealing with it -/

lemma isInbound_of_mem_arrivals {b : Broadcast Event} (h : i ∈ arrivals position b) :
    i.isInbound := by
  rcases List.mem_append.mp h with h | h
  · split at h
    · rw [List.mem_singleton.mp h]
      rfl
    · cases h
  · obtain ⟨e, -, rfl⟩ := List.mem_map.mp h
    rfl

/-- To take something is not yet to deal with it. -/
lemma watchdog_of_offer? (h : w.offer? = some (i, w₁)) : w₁.watchdog = w.watchdog := by
  rw [offer?] at h
  simp only [Option.bind_eq_bind, Option.bind_eq_some_iff] at h
  obtain ⟨id, -, ⟨received, b⟩, -, hsome⟩ := h
  cases received <;> cases hsome <;> exact watchdog_setInbound b w

/-- **What comes from the server retunes the event loop**, however much of it there is. -/
lemma Reads.retuned (hreads : Reads w is w') (hv : config.Valid)
    (hin : ∀ i ∈ is, i.isInbound) (hc : w.watchdog.core.Consistent config)
    (hshown : w.watchdog.core.shown = w.watchdog.core) (hidle : w.watchdog.core.emitting = false) :
    w'.watchdog.phase = w.watchdog.phase ∧ w'.watchdog.core.Consistent config ∧
      w'.watchdog.core.shown = w'.watchdog.core ∧
      Core.Retuned (is.foldl (Regime.after config) w.watchdog.core.regime).intervalMs
        (is.countP Incident.malformed) w.watchdog.core w'.watchdog.core := by
  -- induction on the turns: each of them retunes the loop
  induction hreads with
  | done nothing => exact ⟨rfl, hc, hshown, Core.retuned_refl _⟩
  | pass now clock rest ih => exact ih hin hc hshown hidle
  | @turn w w₁ w' i is offers rest ih =>
    have hwatchdog : (w₁.turn i).watchdog =
        { w.watchdog with core := (w.watchdog.core.step (w₁.moment w₁.now) i).1 } := by
      rw [← watchdog_of_offer? offers]
      exact watchdog_performAll _ _
    have hfirst : Core.Retuned (w.watchdog.core.regime.after config i).intervalMs
        i.malformed.toNat w.watchdog.core (w.watchdog.core.step (w₁.moment w₁.now) i).1 := by
      rw [← Incident.rejections_eq, ← hc.config_eq]
      exact Core.retuned_step hshown hidle (hin i List.mem_cons_self)
    rw [hwatchdog] at ih
    obtain ⟨hphase, hc', hshown', hrest⟩ := ih (fun j hj => hin j (List.mem_cons_of_mem _ hj))
      (hc.step hv _ i) (by rw [Core.step_fst, Core.shown_shown])
      (hfirst.emitting.trans hidle)
    refine ⟨hphase, hc', hshown', ?_⟩
    rw [Core.regime_step, hc.config_eq] at hrest
    have hcount : (i :: is).countP Incident.malformed =
        i.malformed.toNat + is.countP Incident.malformed := by
      rw [List.countP_cons, Nat.add_comm]
      cases i.malformed <;> rfl
    rw [hcount]
    exact hfirst.trans hrest

/-- When everything had been read before, the newest events are dealt with, as many as the channel
keeps. -/
lemma arrivals_sendAll {b : Broadcast Event} (hb : b.Sound inboundBuffer) (es : List Event) :
    arrivals b.sent (b.sendAll es) =
      (if es.length ≤ inboundBuffer then [] else [.missed (es.length - inboundBuffer)]) ++
        (es.rtake inboundBuffer).map .inbound := by
  obtain ⟨hmissed, hunread⟩ := hb.unread_sendAll es
  rw [arrivals, hmissed, hunread, List.rtake]
  congr 1
  split <;> split <;> first | rfl | omega

/-- **A burst of events comes to the last interval that it asks for.**  Take an event loop between
two heartbeats, in any state that it comes to in a life with a valid configuration, which reads the
events of a channel and has read them all.  Then any number of events are put into the channel.

* Of these, the loop deals with the newest, as many as the channel keeps, in their order, and before
  that it is told how many it has missed, if it has missed any.  It can deal with all of these, and
  it deals with nothing else until there is nothing left to read, whatever time passes meanwhile.
* Then it still runs and is subscribed.  The interval is the one that the last well-formed directive
  among these events asks for, moved into the bounds, and it is the period of the foreground timer;
  without such a directive it stayed.  The malformed directives among them were counted.  Beyond
  that the status is what it was, except that the background clock may have turned out to be lost;
  the timer runs or not as before, the same last ticks are remembered, and everyone sees this
  status. -/
theorem burst_retunes {workerHeld : Bool} {hs : List Happening} {requests : List Request}
    {b : Broadcast Event} (valid : config.validate = .ok ())
    (lives : (Watchdog.launch config workerHeld).lives hs)
    (watchdog : w.watchdog = { (Watchdog.launch config workerHeld).after hs with requests })
    (running : w.watchdog.phase = .running) (idle : w.watchdog.core.emitting = false)
    (source : w.ownInbound? = none) (subscribed : w.subscription? = some id)
    (made : w.channel.inbound.Made inboundBuffer)
    (drained : w.channel.inbound.receive? id = some (.nothing, b)) (es : List Event) :
    let newest := es.rtake inboundBuffer
    let handled : List Incident :=
      (if es.length ≤ inboundBuffer then [] else [.missed (es.length - inboundBuffer)]) ++
        newest.map .inbound
    let full := { w with channel := w.channel.inject es }
    let c := w.watchdog.core
    (∃ w', Reads full handled w') ∧
    ∀ is w', Reads full is w' → is = handled ∧ w'.inboundTurn? = none ∧
      w'.subscription? = some id ∧ w'.watchdog.phase = .running ∧
      let c' := w'.watchdog.core
      c'.status = { c.status with
        intervalMs := ((newest.filterMap Event.requestedMs?).getLast?.map config.clamp).getD
          c.status.intervalMs
        rejectedDirectives := c.status.rejectedDirectives + newest.countP Event.malformed
        workerAvailable := c'.status.workerAvailable } ∧
      c'.timer.period = millis c'.status.intervalMs.toNat ∧
      c'.timer.isRunning = c.timer.isRunning ∧
      c'.lastForegroundPing? = c.lastForegroundPing? ∧
      c'.lastBackgroundPing? = c.lastBackgroundPing? ∧ c'.published = c'.status := by
  intro newest handled full c
  have hv := HeartbeatConfig.valid_of_validate valid
  -- before the burst
  have hphase : ((Watchdog.launch config workerHeld).after hs).phase = .running := by
    rw [watchdog] at running
    exact running
  have hcore : ((Watchdog.launch config workerHeld).after hs).core = c :=
    (congrArg Watchdog.core watchdog).symm
  have hc : c.Consistent config :=
    hcore ▸ (Watchdog.consistent_launch hv workerHeld).after hv lives hphase
  have hshown : c.shown = c :=
    hcore ▸ (Watchdog.settled_launch config workerHeld).after lives hphase
  -- what there is to read
  have hsound := made.sound
  have hlistens : full.Listens id w.channel.inbound.sent := by
    refine ⟨source, subscribed, ?_⟩
    show (w.channel.inbound.sendAll es).position? id = _
    rw [Broadcast.position?, Broadcast.subscribers_sendAll]
    exact hsound.position?_of_receive? drained
  have hclosed : full.channel.inbound.closed = false := (hsound.sendAll es).closed
  have harrivals : arrivals w.channel.inbound.sent full.channel.inbound = handled :=
    arrivals_sendAll hsound es
  refine ⟨harrivals ▸ hlistens.exists_reads hclosed, fun is w' hreads => ?_⟩
  obtain ⟨his, hnothing, hsubscribed⟩ := hreads.eq_arrivals hlistens hclosed
  have hin : ∀ i ∈ is, i.isInbound := fun i hi => isInbound_of_mem_arrivals (his ▸ hi)
  rw [harrivals] at his
  obtain ⟨hphase', hc', hshown', hretuned⟩ := hreads.retuned hv hin hc hshown idle
  refine ⟨his, hnothing, hsubscribed, hphase'.trans running, ?_, hc'.follows.period,
    hretuned.isRunning, hretuned.lastForegroundPing?, hretuned.lastBackgroundPing?, ?_⟩
  · -- the news that events were missed asks for nothing and is no malformed directive
    have hinterval : (is.foldl (Regime.after config) full.watchdog.core.regime).intervalMs =
        ((newest.filterMap Event.requestedMs?).getLast?.map config.clamp).getD
          c.status.intervalMs := by
      refine Eq.trans ?_ (congrArg Regime.intervalMs
        (Regime.foldl_after_inbound config c.regime newest))
      rw [his]
      dsimp only [handled]
      split <;> rfl
    have hcount : is.countP Incident.malformed = newest.countP Event.malformed := by
      have hnewest : (newest.map Incident.inbound).countP Incident.malformed =
          newest.countP Event.malformed := List.countP_map
      rw [his, ← hnewest]
      dsimp only [handled]
      split <;> rfl
    rw [hinterval, hcount] at hretuned
    exact hretuned.status
  · have hidle' : w'.watchdog.core.emitting = false := hretuned.emitting.trans idle
    rw [hc'.published hidle']
    exact congrArg (·.1.status) (Core.publish_of_shown hshown' hidle')

/-- A watchdog that has just been started and reads the events of its channel. -/
def listening : World :=
  { watchdog := .launch {} true
    channel := { inbound := (Broadcast.subscribe { capacity := inboundBuffer }).2 }
    subscription? := some 0
    clock := .absent }

/-- A directive, an event that is none, a directive that asks for more than the longest interval, a
malformed one, and many more events that are none.  The first two events are missed. -/
def flood : List Event :=
  [⟨Event.setInterval, .int 5⟩, ⟨"greeting", .null⟩, ⟨Event.setInterval, .int 100000⟩,
    ⟨Event.setInterval, .string "soon"⟩] ++ List.replicate 62 ⟨"greeting", .null⟩

theorem flood_retunes :
    let full := { listening with channel := listening.channel.inject flood }
    ∃ w', Reads full (.missed 2 :: (flood.drop 2).map .inbound) w' ∧
      w'.watchdog.core.status.intervalMs = 3600000 ∧
      w'.watchdog.core.timer.period = millis 3600000 ∧
      w'.watchdog.core.status.rejectedDirectives = 1 := by
  obtain ⟨⟨w', hreads⟩, hall⟩ := @burst_retunes {} listening 0 true [] [] _ rfl rfl rfl rfl rfl rfl
    rfl (.subscribe .new) rfl flood
  obtain ⟨-, -, -, -, hstatus, hperiod, -⟩ := hall _ _ hreads
  have hinterval : w'.watchdog.core.status.intervalMs = 3600000 := by
    refine (congrArg Status.intervalMs hstatus).trans ?_
    dsimp only
    decide +kernel
  have hrejected : w'.watchdog.core.status.rejectedDirectives = 1 := by
    refine (congrArg Status.rejectedDirectives hstatus).trans ?_
    dsimp only
    decide +kernel
  rw [hinterval] at hperiod
  exact ⟨w', hreads, hinterval, hperiod, hrejected⟩

end Simulation.World

end LinkWatch
