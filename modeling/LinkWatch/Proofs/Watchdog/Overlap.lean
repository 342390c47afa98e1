/-
# Calls that overlap

Calls that start a watchdog and calls that shut it down may overlap.  Each takes its way in steps:
it takes or drops the core, spawns the event loop, sends a request, or gets hold of the handle of
the event loop.  Between the steps of a call others may take theirs, and so may the event loop.

A call that shuts the watchdog down empties the slot of the core, asks the event loop to end, and
then looks for the handle; if there is one it waits for the event loop, and keeps the slot of the
handle locked meanwhile.  When it returns the watchdog has ended for good, unless a call to start
the watchdog is between taking the core and storing the handle (`Traffic.shutdown_waits`).  In that
case there is no handle to be found yet: the call returns at once, and an event loop may run
afterwards and even send a heartbeat (`Traffic.heartbeat_after_shutdown`).  The request to end waits
for it all the same.
-/
import LinkWatch.Proofs.Watchdog.Calls
import Mathlib.Logic.Function.Basic

namespace LinkWatch

/-- How far a call has come. -/
inductive Stage where
  /-- The watchdog is to be started, with a source of signals. -/
  | starting (source : ℕ)
  /-- The core was taken. -/
  | holding (source : ℕ)
  /-- The event loop was spawned, and its handle is still to be stored. -/
  | spawned
  /-- The call to start the watchdog has returned. -/
  | started
  /-- The watchdog is to be shut down. -/
  | stopping
  /-- The slot of the core was emptied. -/
  | emptied
  /-- The event loop was asked to end. -/
  | asked
  /-- The handle was taken, and its slot is locked until the event loop has ended. -/
  | waiting
  /-- The call to shut the watchdog down has returned. -/
  | stopped
deriving DecidableEq

/-- A watchdog with the calls that are made at the same time. -/
structure Traffic (ι : Type) where
  session : Session
  /-- Whether the core is in its slot, where no call has taken it. -/
  slot : Bool := true
  /-- Whether the handle of the event loop is in its slot. -/
  handle : Bool := false
  /-- Whether the slot of the handle is locked. -/
  locked : Bool := false
  /-- How far each call has come. -/
  stage : ι → Stage

/-- A step of a call, or of the event loop. -/
inductive Move (ι : Type) where
  | call (i : ι)
  | loop (d : Deed)

namespace Deed

/-- Whether it is the event loop that does something. -/
def isLoop : Deed → Bool
  | .signal _ _ _ | .request _ | .turn _ _ => true
  | _ => false

end Deed

namespace Stage

/-- Whether a call has asked the event loop to end. -/
def hasAsked : Stage → Bool
  | .asked | .waiting | .stopped => true
  | _ => false

/-- Whether a call has seen to it that the slot of the core is empty. -/
def hasEmptied : Stage → Bool
  | .emptied => true
  | p => p.hasAsked

end Stage

namespace Session

variable {s : Session} {d : Deed}

/-- Asks whoever has the core to end. -/
def ask (s : Session) : Session :=
  if s.watchdog.phase = .ended then s
  else { s with watchdog.requests := s.watchdog.requests ++ [.shutdown] }

/-- Whether the watchdog has ended, or is bound to when the event loop takes its requests. -/
def Doomed (s : Session) : Prop := s.watchdog.phase = .ended ∨ .shutdown ∈ s.watchdog.requests

lemma phase_start (s : Session) (source : ℕ) :
    (s.perform (.start source)).1.watchdog.phase =
      if s.watchdog.phase = .ready then .running else s.watchdog.phase := by
  rw [perform, Watchdog.start]
  split <;> rfl

lemma phase_shutdown (s : Session) :
    (s.perform .shutdown).1.watchdog.phase =
      if s.watchdog.phase = .ready then .ended else s.watchdog.phase := by
  rw [perform, Watchdog.shutdown]
  cases hp : s.watchdog.phase <;> simp [hp]

lemma phase_start_ne_ready (s : Session) (source : ℕ) :
    (s.perform (.start source)).1.watchdog.phase ≠ .ready := by
  rw [phase_start]
  split
  · nofun
  · assumption

lemma phase_shutdown_ne_ready (s : Session) : (s.perform .shutdown).1.watchdog.phase ≠ .ready := by
  rw [phase_shutdown]
  split
  · nofun
  · assumption

@[simp] lemma phase_ask (s : Session) : s.ask.watchdog.phase = s.watchdog.phase := by
  rw [ask]
  split <;> rfl

lemma doomed_ask (s : Session) : s.ask.Doomed := by
  rw [Doomed, phase_ask, ask]
  split
  next h => exact .inl h
  next => exact .inr (List.mem_append_right _ List.mem_cons_self)

lemma Doomed.start (h : s.Doomed) (source : ℕ) : (s.perform (.start source)).1.Doomed := by
  rw [Doomed, phase_start, perform, Watchdog.start]
  rcases h with h | h
  · simp [h]
  · refine .inr ?_
    split <;> exact h

lemma Doomed.shutdown (h : s.Doomed) : (s.perform .shutdown).1.Doomed := by
  rw [Doomed, phase_shutdown, perform, Watchdog.shutdown]
  rcases h with h | h <;> cases hp : s.watchdog.phase <;> simp_all

/-- The event loop acts only while it runs. -/
lemma running_of_isLoop (hd : d.isLoop) (ha : s.admits d) : s.watchdog.phase = .running := by
  cases d with
  | signal m source online =>
    exact (Watchdog.allows_turn_iff.mp (Bool.and_eq_true_iff.mp ha).2).1
  | request m => exact (Watchdog.allows_finish_iff.mp (Bool.and_eq_true_iff.mp ha).2).1
  | turn m i => exact (Watchdog.allows_turn_iff.mp (Bool.and_eq_true_iff.mp ha).2).1
  | _ => cases hd

/-- It does not forget a request to end. -/
lemma phase_of_isLoop (hd : d.isLoop) (ha : s.admits d) :
    (s.perform d).1.watchdog.phase ≠ .ready ∧ (s.Doomed → (s.perform d).1.Doomed) := by
  have hp := running_of_isLoop hd ha
  have hc := change ha
  unfold Doomed
  generalize (s.perform d).1 = s' at hc ⊢
  cases hc with
  | started | queued | bound | dropped | asked => cases hd
  | applied _ hr => exact ⟨by simp [hp], by simp [hr]⟩
  | finished => exact ⟨nofun, fun _ => .inl rfl⟩
  | signalled | turned | kept => exact ⟨by simp [hp], id⟩

end Session

namespace Traffic

variable {ι : Type} [DecidableEq ι]

/-- The next step of a call, unless it has returned or has to wait. -/
def advance (s : Traffic ι) (i : ι) : Option (Traffic ι) :=
  let become (s : Traffic ι) (p : Stage) : Traffic ι :=
    { s with stage := Function.update s.stage i p }
  match s.stage i with
  | .starting source =>
    if s.slot then some (become { s with slot := false } (.holding source))
    else some (become s .started)
  | .holding source =>
    some (become { s with session := (s.session.perform (.start source)).1 } .spawned)
  | .spawned => if s.locked then none else some (become { s with handle := true } .started)
  | .stopping =>
    if s.slot then
      some (become { s with session := (s.session.perform .shutdown).1, slot := false } .emptied)
    else some (become s .emptied)
  | .emptied => some (become { s with session := s.session.ask } .asked)
  | .asked =>
    if s.locked then none
    else if s.handle then some (become { s with handle := false, locked := true } .waiting)
    else some (become s .stopped)
  | .waiting =>
    if s.session.watchdog.phase = .ended then some (become { s with locked := false } .stopped)
    else none
  | .started | .stopped => none

/-- What comes of a step, and what is done about it, if the step can be taken. -/
def next? (s : Traffic ι) : Move ι → Option (Traffic ι × List Effect)
  | .call i => (s.advance i).map fun s => (s, [])
  | .loop d =>
    if d.isLoop && s.session.admits d then
      some ({ s with session := (s.session.perform d).1 }, (s.session.perform d).2)
    else none

/-- What comes of steps, one after the other, if all of them can be taken. -/
def after? (s : Traffic ι) : List (Move ι) → Option (Traffic ι)
  | [] => some s
  | k :: ks => (s.next? k).bind fun (s, _) => s.after? ks

/-- A watchdog and calls that have just been made. -/
structure Fresh (s : Traffic ι) : Prop where
  ready : s.session.watchdog.phase = .ready
  slot : s.slot = true
  handle : s.handle = false
  locked : s.locked = false
  stage (i : ι) : s.stage i = .stopping ∨ ∃ source, s.stage i = .starting source

/-! ## The ways of a call -/

/-- The ways in which a call goes on. -/
inductive Advance (s : Traffic ι) (i : ι) : Traffic ι → Prop
  | take {source : ℕ} (stage : s.stage i = .starting source) (slot : s.slot = true) :
    Advance s i { s with slot := false, stage := Function.update s.stage i (.holding source) }
  | refuse {source : ℕ} (stage : s.stage i = .starting source) (slot : s.slot = false) :
    Advance s i { s with stage := Function.update s.stage i .started }
  | spawn {source : ℕ} (stage : s.stage i = .holding source) :
    Advance s i { s with
      session := (s.session.perform (.start source)).1
      stage := Function.update s.stage i .spawned }
  | store (stage : s.stage i = .spawned) (locked : s.locked = false) :
    Advance s i { s with handle := true, stage := Function.update s.stage i .started }
  | drop (stage : s.stage i = .stopping) (slot : s.slot = true) :
    Advance s i { s with
      session := (s.session.perform .shutdown).1
      slot := false
      stage := Function.update s.stage i .emptied }
  | pass (stage : s.stage i = .stopping) (slot : s.slot = false) :
    Advance s i { s with stage := Function.update s.stage i .emptied }
  | ask (stage : s.stage i = .emptied) :
    Advance s i { s with session := s.session.ask, stage := Function.update s.stage i .asked }
  | grab (stage : s.stage i = .asked) (locked : s.locked = false) (handle : s.handle = true) :
    Advance s i { s with
      handle := false, locked := true, stage := Function.update s.stage i .waiting }
  | leave (stage : s.stage i = .asked) (locked : s.locked = false) (handle : s.handle = false) :
    Advance s i { s with stage := Function.update s.stage i .stopped }
  | awake (stage : s.stage i = .waiting) (ended : s.session.watchdog.phase = .ended) :
    Advance s i { s with locked := false, stage := Function.update s.stage i .stopped }

variable {s t : Traffic ι} {i : ι}

lemma advance_cases (h : s.advance i = some t) : s.Advance i t := by
  unfold advance at h
  dsimp only at h
  split at h
  next source hp =>
    split at h <;> cases h
    next hslot => exact .take hp hslot
    next hslot => exact .refuse hp (Bool.eq_false_iff.mpr hslot)
  next source hp =>
    cases h
    exact .spawn hp
  next hp =>
    split at h <;> cases h
    next hlocked => exact .store hp (Bool.eq_false_iff.mpr hlocked)
  next hp =>
    split at h <;> cases h
    next hslot => exact .drop hp hslot
    next hslot => exact .pass hp (Bool.eq_false_iff.mpr hslot)
  next hp =>
    cases h
    exact .ask hp
  next hp =>
    split at h
    · cases h
    next hlocked =>
      have hlocked := Bool.eq_false_iff.mpr hlocked
      split at h <;> cases h
      next hhandle => exact .grab hp hlocked hhandle
      next hhandle => exact .leave hp hlocked (Bool.eq_false_iff.mpr hhandle)
  next hp =>
    split at h <;> cases h
    next hended => exact .awake hp hended
  next => cases h
  next => cases h

/-- A call leaves the others where they are. -/
lemma Advance.stage_of_ne (ha : s.Advance i t) {j : ι} (hj : j ≠ i) : t.stage j = s.stage j := by
  cases ha <;> exact Function.update_of_ne hj ..

/-- No call makes the watchdog ready again, and the one that has the core spawns the event loop. -/
lemma Advance.ready (ha : s.Advance i t) (hp : t.session.watchdog.phase = .ready) :
    s.session.watchdog.phase = .ready ∧ ∀ source, s.stage i ≠ .holding source := by
  cases ha with
  | spawn => exact absurd hp (Session.phase_start_ne_ready _ _)
  | drop => exact absurd hp (Session.phase_shutdown_ne_ready _)
  | ask stage => exact ⟨(Session.phase_ask _).symm.trans hp, by simp [stage]⟩
  | take stage | refuse stage | store stage | pass stage | grab stage | leave stage | awake stage =>
    exact ⟨hp, by simp [stage]⟩

/-- The event loop runs only if it was spawned. -/
lemma Advance.running (ha : s.Advance i t) (hp : t.session.watchdog.phase = .running) :
    s.session.watchdog.phase = .running ∨ t.stage i = .spawned := by
  cases ha with
  | spawn => exact .inr (Function.update_self ..)
  | drop =>
    rw [Session.phase_shutdown] at hp
    split at hp
    · cases hp
    · exact .inl hp
  | ask => exact .inl ((Session.phase_ask _).symm.trans hp)
  | _ => exact .inl hp

/-- A call that begins to wait locks the slot of the handle, which was not locked before. -/
lemma Advance.waits (ha : s.Advance i t) (hi : t.stage i = .waiting) :
    s.locked = false ∧ t.locked = true := by
  cases ha with
  | grab _ locked => exact ⟨locked, rfl⟩
  | _ =>
    simp only [Function.update_self] at hi
    cases hi

/-- No call takes back the request to end. -/
lemma Advance.doomed (ha : s.Advance i t) (hd : s.session.Doomed) : t.session.Doomed := by
  cases ha with
  | spawn => exact hd.start _
  | drop => exact hd.shutdown
  | ask => exact Session.doomed_ask _
  | _ => exact hd

/-- The end is for good. -/
lemma Advance.ended (ha : s.Advance i t) (hp : s.session.watchdog.phase = .ended) :
    t.session.watchdog.phase = .ended := by
  cases ha with
  | spawn => rw [Session.phase_start, hp]; rfl
  | drop => rw [Session.phase_shutdown, hp]; rfl
  | ask => exact (Session.phase_ask _).trans hp
  | _ => exact hp

/-! ## What every step keeps -/

/-- What is known of the core and of the handle.  The core is in its slot or with a call until the
event loop is spawned, and from then on the handle is with the call that spawned the loop, in its
slot, or with a call that waits for the end. -/
structure Sound (s : Traffic ι) : Prop where
  ready : s.session.watchdog.phase = .ready →
    s.slot = true ∨ ∃ i source, s.stage i = .holding source
  running : s.session.watchdog.phase = .running →
    s.handle = true ∨ ∃ i, s.stage i = .spawned ∨ s.stage i = .waiting
  /-- A call that waits keeps the slot of the handle locked, so that no other waits there. -/
  waiting : ∀ i, s.stage i = .waiting → s.locked = true ∧ ∀ j, s.stage j = .waiting → j = i
  emptied : ∀ i, (s.stage i).hasEmptied → s.slot = false
  asked : ∀ i, (s.stage i).hasAsked → s.session.Doomed

omit [DecidableEq ι] in
lemma Fresh.sound (h : s.Fresh) : s.Sound := by
  have hnew : ∀ i, s.stage i ≠ .waiting ∧ ¬(s.stage i).hasEmptied ∧ ¬(s.stage i).hasAsked := by
    intro i
    rcases h.stage i with hi | ⟨source, hi⟩ <;> rw [hi] <;> exact ⟨nofun, nofun, nofun⟩
  refine ⟨fun _ => .inl h.slot, ?_, ?_, ?_, ?_⟩
  · rw [h.ready]
    nofun
  · intro i hi
    exact absurd hi (hnew i).1
  · intro i hi
    exact absurd hi (hnew i).2.1
  · intro i hi
    exact absurd hi (hnew i).2.2

namespace Sound

lemma ready_advance (h : s.Sound) (ha : s.Advance i t) (hp : t.session.watchdog.phase = .ready) :
    t.slot = true ∨ ∃ j source, t.stage j = .holding source := by
  obtain ⟨hbefore, hi⟩ := ha.ready hp
  rcases h.ready hbefore with hslot | ⟨j, source, hj⟩
  · cases ha with
    | take => exact .inr ⟨i, _, Function.update_self ..⟩
    | drop => exact absurd hp (Session.phase_shutdown_ne_ready _)
    | _ => exact .inl hslot
  · have hne : j ≠ i := by
      rintro rfl
      exact hi source hj
    exact .inr ⟨j, source, (ha.stage_of_ne hne).trans hj⟩

lemma running_advance (h : s.Sound) (ha : s.Advance i t)
    (hp : t.session.watchdog.phase = .running) :
    t.handle = true ∨ ∃ j, t.stage j = .spawned ∨ t.stage j = .waiting := by
  rcases ha.running hp with hbefore | hi
  · rcases h.running hbefore with hhandle | ⟨j, hj⟩
    · cases ha with
      | grab => exact .inr ⟨i, .inr (Function.update_self ..)⟩
      | _ => first | exact .inl hhandle | exact .inl rfl
    · by_cases hji : j = i
      · subst hji
        cases ha with
        | store => exact .inl rfl
        | awake _ ended =>
          rw [ended] at hbefore
          cases hbefore
        | _ stage => simp_all
      · rw [← ha.stage_of_ne hji] at hj
        exact .inr ⟨j, hj⟩
  · exact .inr ⟨i, .inl hi⟩

lemma waiting_advance (h : s.Sound) (ha : s.Advance i t) {j : ι} (hj : t.stage j = .waiting) :
    t.locked = true ∧ ∀ k, t.stage k = .waiting → k = j := by
  have hother := fun k (hk : k ≠ i) => ha.stage_of_ne hk
  by_cases hi : t.stage i = .waiting
  · -- the call has just locked the slot, so that nobody was waiting before
    obtain ⟨hfree, hlocked⟩ := ha.waits hi
    have honly : ∀ k, t.stage k = .waiting → k = i := by
      intro k hk
      by_contra hne
      rw [hother k hne] at hk
      rw [(h.waiting k hk).1] at hfree
      cases hfree
    exact ⟨hlocked, fun k hk => (honly k hk).trans (honly j hj).symm⟩
  · have hne : ∀ k, t.stage k = .waiting → k ≠ i := by
      rintro k hk rfl
      exact hi hk
    have hold : ∀ k, t.stage k = .waiting → s.stage k = .waiting := fun k hk =>
      (hother k (hne k hk)).symm.trans hk
    obtain ⟨hlocked, honly⟩ := h.waiting j (hold j hj)
    refine ⟨?_, fun k hk => honly k (hold k hk)⟩
    cases ha with
    | grab => rfl
    | awake stage =>
      -- the only call that waited has just returned
      exact absurd (honly i stage).symm (hne j hj)
    | _ => exact hlocked

lemma emptied_advance (h : s.Sound) (ha : s.Advance i t) {j : ι} (hj : (t.stage j).hasEmptied) :
    t.slot = false := by
  by_cases hji : j = i
  · subst hji
    cases ha with
    | take | drop => rfl
    | pass _ slot => exact slot
    | ask stage | grab stage | leave stage | awake stage =>
      exact h.emptied j (by rw [stage]; rfl)
    | refuse | spawn | store =>
      simp only [Function.update_self] at hj
      cases hj
  · rw [ha.stage_of_ne hji] at hj
    have hslot := h.emptied j hj
    cases ha with
    | take | drop => rfl
    | _ => exact hslot

lemma asked_advance (h : s.Sound) (ha : s.Advance i t) {j : ι} (hj : (t.stage j).hasAsked) :
    t.session.Doomed := by
  by_cases hji : j = i
  · subst hji
    cases ha with
    | ask => exact Session.doomed_ask _
    | grab stage | leave stage | awake stage => exact h.asked j (by rw [stage]; rfl)
    | _ =>
      simp only [Function.update_self] at hj
      cases hj
  · rw [ha.stage_of_ne hji] at hj
    exact ha.doomed (h.asked j hj)

lemma advance (h : s.Sound) (ha : s.Advance i t) : t.Sound :=
  ⟨h.ready_advance ha, h.running_advance ha, fun _ => h.waiting_advance ha,
    fun _ => h.emptied_advance ha, fun _ => h.asked_advance ha⟩

end Sound

variable {k : Move ι} {ks ls : List (Move ι)} {es : List Effect} {u : Traffic ι}

lemma advance_of_next? (h : s.next? (.call i) = some (t, es)) : s.Advance i t ∧ es = [] := by
  obtain ⟨t', ha, heq⟩ := Option.map_eq_some_iff.mp h
  cases heq
  exact ⟨advance_cases ha, rfl⟩

lemma next?_loop {d : Deed} (h : s.next? (.loop d) = some (t, es)) :
    d.isLoop ∧ s.session.admits d ∧ t = { s with session := (s.session.perform d).1 } := by
  rw [next?] at h
  split at h <;> cases h
  next hd =>
    obtain ⟨hloop, hadmits⟩ := Bool.and_eq_true_iff.mp hd
    exact ⟨hloop, hadmits, rfl⟩

/-- **Every step keeps what is known of the core and of the handle.** -/
lemma Sound.next (h : s.Sound) (hk : s.next? k = some (t, es)) : t.Sound := by
  cases k with
  | call i => exact h.advance (advance_of_next? hk).1
  | loop d =>
    obtain ⟨hd, ha, rfl⟩ := next?_loop hk
    have hp := Session.running_of_isLoop hd ha
    obtain ⟨hready, hdoomed⟩ := Session.phase_of_isLoop hd ha
    exact ⟨fun hr => absurd hr hready, fun _ => h.running hp, h.waiting, h.emptied,
      fun j hj => hdoomed (h.asked j hj)⟩

lemma doomed_next (hd : s.session.Doomed) (hk : s.next? k = some (t, es)) : t.session.Doomed := by
  cases k with
  | call i => exact (advance_of_next? hk).1.doomed hd
  | loop d =>
    obtain ⟨hloop, ha, rfl⟩ := next?_loop hk
    exact (Session.phase_of_isLoop hloop ha).2 hd

/-- After the end nothing is done any more. -/
lemma ended_next (hp : s.session.watchdog.phase = .ended) (hk : s.next? k = some (t, es)) :
    t.session.watchdog.phase = .ended ∧ es = [] := by
  cases k with
  | call i =>
    obtain ⟨ha, hes⟩ := advance_of_next? hk
    exact ⟨ha.ended hp, hes⟩
  | loop d =>
    obtain ⟨hloop, ha, -⟩ := next?_loop hk
    rw [Session.running_of_isLoop hloop ha] at hp
    cases hp

/-- What every step keeps, all steps keep. -/
lemma after?_induction {P : Traffic ι → Prop}
    (step : ∀ s k t es, P s → s.next? k = some (t, es) → P t) (hs : P s)
    (h : s.after? ks = some t) : P t := by
  induction ks generalizing s with
  | nil =>
    cases h
    exact hs
  | cons k ks ih =>
    obtain ⟨⟨u, es⟩, hk, hrest⟩ := Option.bind_eq_some_iff.mp h
    exact ih (step s k u es hs hk) hrest

/-! ## Calls that do not overlap with others -/

/-- A call that starts the watchdog, with no other in between, does what starting it does. -/
theorem start_alone {source : ℕ} (calls : s.stage i = .starting source)
    (slot : s.slot = decide (s.session.watchdog.phase = .ready)) (locked : s.locked = false) :
    s.after? (List.replicate (if s.slot then 3 else 1) (.call i)) = some {
      session := (s.session.perform (.start source)).1, slot := false
      handle := s.slot || s.handle, locked := false
      stage := Function.update s.stage i .started } := by
  obtain ⟨session, hasCore, handle, isLocked, stage⟩ := s
  simp only at calls slot locked
  subst locked
  by_cases hp : session.watchdog.phase = .ready
  · obtain rfl : hasCore = true := by simpa [hp] using slot
    simp [after?, next?, advance, calls]
  · obtain rfl : hasCore = false := by simpa [hp] using slot
    have hkept : (session.perform (.start source)).1 = session := by
      rw [Session.perform, Watchdog.start, if_neg hp]
      rfl
    simp [after?, next?, advance, calls, hkept]

/-- A call that shuts the watchdog down, with no other in between, does what shutting it down does;
then it waits for the event loop, if there is one. -/
theorem shutdown_alone (calls : s.stage i = .stopping)
    (slot : s.slot = decide (s.session.watchdog.phase = .ready)) (locked : s.locked = false) :
    s.after? [.call i, .call i, .call i] = some {
      session := (s.session.perform .shutdown).1, slot := false
      handle := false, locked := s.handle
      stage := Function.update s.stage i (if s.handle then .waiting else .stopped) } := by
  obtain ⟨session, hasCore, handle, isLocked, stage⟩ := s
  simp only at calls slot locked
  subst locked
  have hasked : (if hasCore then (session.perform .shutdown).1 else session).ask =
      (session.perform .shutdown).1 := by
    cases hp : session.watchdog.phase <;>
      simp [slot, hp, Session.perform, Watchdog.shutdown, Session.ask]
  cases hasCore <;> cases handle <;> simp_all [after?, next?, advance]

/-! ## What a call to shut the watchdog down waits for -/

/-- When a call to shut the watchdog down returns, the watchdog has ended, unless a call to start it
is about to spawn the event loop or to store its handle. -/
lemma Sound.ended_of_stopped (h : s.Sound) (ha : s.Advance i t) (hi : t.stage i = .stopped)
    (hnone : ∀ j, s.stage j ≠ .spawned ∧ ∀ source, s.stage j ≠ .holding source) :
    t.session.watchdog.phase = .ended := by
  cases ha with
  | awake _ ended => exact ended
  | leave stage locked handle =>
    cases hp : s.session.watchdog.phase with
    | ended => rfl
    | ready =>
      rcases h.ready hp with hslot | ⟨j, source, hj⟩
      · rw [h.emptied i (by rw [stage]; rfl)] at hslot
        cases hslot
      · exact absurd hj ((hnone j).2 source)
    | running =>
      rcases h.running hp with hhandle | ⟨j, hj | hj⟩
      · rw [handle] at hhandle
        cases hhandle
      · exact absurd hj (hnone j).1
      · rw [(h.waiting j hj).1] at locked
        cases locked
  | _ =>
    simp only [Function.update_self] at hi
    cases hi

/-- **A call to shut the watchdog down waits for the end.**  Take any calls that overlap in any way,
and a moment at which one of them that shuts the watchdog down returns.  From then on the watchdog
has ended or is bound to end when the event loop takes its requests.  And if at that moment no call
to start the watchdog was between taking the core and storing the handle, the watchdog has ended for
good: no event loop runs any more or will ever run, and nothing is done, so that no heartbeat is
sent.

Where no call has the core or the lock, a call that takes its steps with nothing in between does what
starting the watchdog does, or shutting it down. -/
theorem shutdown_waits (fresh : s.Fresh) (reached : s.after? ks = some t)
    (returns : t.next? (.call i) = some (u, es)) (returned : u.stage i = .stopped) :
    (∀ ls v, u.after? ls = some v → v.session.Doomed ∧
      ((∀ j, t.stage j ≠ .spawned ∧ ∀ source, t.stage j ≠ .holding source) →
        v.session.watchdog.phase = .ended ∧ ∀ k x fs, v.next? k = some (x, fs) → fs = [])) ∧
    (t.slot = decide (t.session.watchdog.phase = .ready) → t.locked = false →
      (∀ j source, t.stage j = .starting source →
        t.after? (List.replicate (if t.slot then 3 else 1) (.call j)) = some {
          session := (t.session.perform (.start source)).1, slot := false
          handle := t.slot || t.handle, locked := false
          stage := Function.update t.stage j .started }) ∧
      ∀ j, t.stage j = .stopping → t.after? [.call j, .call j, .call j] = some {
        session := (t.session.perform .shutdown).1, slot := false
        handle := false, locked := t.handle
        stage := Function.update t.stage j (if t.handle then .waiting else .stopped) }) := by
  refine ⟨fun ls v hv => ?_, fun hslot hlocked =>
    ⟨fun j source hj => start_alone hj hslot hlocked, fun j hj => shutdown_alone hj hslot hlocked⟩⟩
  have hsound : t.Sound := after?_induction (fun _ _ _ _ h hk => h.next hk) fresh.sound reached
  have ha := (advance_of_next? returns).1
  have hdoomed := (hsound.advance ha).asked i (by rw [returned]; rfl)
  refine ⟨after?_induction (fun _ _ _ _ h hk => doomed_next h hk) hdoomed hv, fun hnone => ?_⟩
  have hended := hsound.ended_of_stopped ha returned hnone
  have hlater : v.session.watchdog.phase = .ended :=
    after?_induction (fun _ _ _ _ h hk => (ended_next h hk).1) hended hv
  exact ⟨hlater, fun k x fs hk => (ended_next hlater hk).2⟩

/-- A watchdog with the default configuration and a background clock; one call starts it, another
shuts it down. -/
def racing : Traffic (Fin 2) where
  session := { watchdog := { core := .new {} true } }
  stage i := if i = 0 then .starting 0 else .stopping

lemma fresh_racing : racing.Fresh := by
  refine ⟨rfl, rfl, rfl, rfl, fun i => ?_⟩
  by_cases hi : i = 0
  · exact .inr ⟨0, if_pos hi⟩
  · exact .inl (if_neg hi)

/-- The second call is made when the first has returned, and waits for the event loop. -/
def oneAfterTheOther : List (Move (Fin 2)) :=
  [.call 0, .call 0, .call 0, .call 1, .call 1, .call 1, .loop (.request ⟨0, .epoch, true⟩)]

theorem shutdown_waits_for_loop :
    racing.Fresh ∧ ∃ t u es, racing.after? oneAfterTheOther = some t ∧
      t.next? (.call 1) = some (u, es) ∧ u.stage 1 = .stopped ∧
      (∀ j, t.stage j ≠ .spawned ∧ ∀ source, t.stage j ≠ .holding source) ∧
      u.session.watchdog.phase = .ended := by
  have hreturns : ((racing.after? oneAfterTheOther).bind (·.next? (.call 1))).map
      (fun r => r.1.stage 1) = some .stopped := by decide
  have hstages : ∀ j, (racing.after? oneAfterTheOther).map (·.stage j) =
      some (if j = 0 then .started else .waiting) := by decide
  obtain ⟨⟨u, es⟩, hbind, hstopped⟩ := Option.map_eq_some_iff.mp hreturns
  obtain ⟨t, ht, hu⟩ := Option.bind_eq_some_iff.mp hbind
  have hquiet : ∀ j, t.stage j ≠ .spawned ∧ ∀ source, t.stage j ≠ .holding source := by
    intro j
    have hj := hstages j
    rw [ht] at hj
    have hstage : t.stage j = if j = 0 then .started else .waiting := Option.some.inj hj
    rw [hstage]
    split <;> exact ⟨nofun, nofun⟩
  have hended := (((shutdown_waits fresh_racing ht hu hstopped).1 [] u rfl).2 hquiet).1
  exact ⟨fresh_racing, t, u, es, ht, hu, hstopped, hquiet, hended⟩

/-- The call that shuts the watchdog down goes all its way while the other holds the core. -/
def overtaken : List (Move (Fin 2)) := [.call 0, .call 1, .call 1, .call 1]

/-- It does so when the event loop was spawned but its handle is not stored yet, after two
seconds. -/
def overtakenLate : List (Move (Fin 2)) :=
  [.call 0, .call 0, .loop (.signal ⟨0, .epoch, true⟩ 0 true), .call 1, .call 1, .call 1]

/-- **A heartbeat after the end.**  A call that shuts the watchdog down does not always wait.  In
the first of two cases the event loop is spawned after the call has returned.  In the second it
still runs, and since a tick is due at that moment it may take the tick before the request to end: a
heartbeat is sent. -/
theorem heartbeat_after_shutdown :
    racing.Fresh ∧
      (racing.after? overtaken).map (·.stage 1) = some .stopped ∧
      (racing.after? (overtaken ++ [.call 0])).map (·.session.watchdog.phase) = some .running ∧
      (racing.after? overtakenLate).map (·.stage 1) = some .stopped ∧
      ((racing.after? overtakenLate).bind fun t =>
          t.next? (.loop (.turn ⟨millis 2000, .epoch, true⟩ .due))).map
        (fun (_, es) => es.any Effect.isEmit) = some true :=
  ⟨fresh_racing, by decide, by decide, by decide, by decide⟩

end Traffic

end LinkWatch
