/-
# The calls of the handle

Others use a watchdog through its handle: they start it, ask for another interval, bind indicators
and shut it down.  Here they do so one after the other, each call being made only when the one
before has returned.  A call that shuts a running watchdog down returns when the event loop has
ended; the other calls return at once.  In between, the event loop does whatever it can do.

All this together is a list of deeds.  `Session.Change` says once what a deed can do, and
`Session.Account` what is known of a session from the deeds that were done: the phase depends on
nothing but the calls, and every request that was accepted has either been applied or still waits,
in the order in which the requests were made (`Session.account`).
-/
import LinkWatch.Proofs.Watchdog.Commands

namespace LinkWatch

/-- Whether an incident is neither a signal nor a request for an interval. -/
def Incident.isOther : Incident → Bool
  | .signal _ | .setInterval _ => false
  | _ => true

namespace Watchdog

variable {w : Watchdog} {nanos : ℕ}

/-- The event loop takes the next request. -/
def takeRequest (m : Moment) (w : Watchdog) : Watchdog × List Effect :=
  match w.requests with
  | [] => (w, [])
  | .setInterval intervalMs :: rest =>
    { w with requests := rest }.happen (.turn m (.setInterval intervalMs))
  | .shutdown :: _ => w.happen (.finish m)

lemma setInterval_of_lt (h : nanos < nanosPerMilli) :
    w.setInterval nanos = .error (.invalidInterval (Duration.text nanos)) := by
  rw [setInterval, if_pos h]

lemma setInterval_of_ended (h : nanosPerMilli ≤ nanos) (he : w.phase = .ended) :
    w.setInterval nanos = .error .stopped := by
  rw [setInterval, if_neg (Nat.not_lt.mpr h), if_pos he]

lemma setInterval_of_ne (h : nanosPerMilli ≤ nanos) (he : w.phase ≠ .ended) :
    w.setInterval nanos = .ok { w with
      requests := w.requests ++
        [.setInterval (UInt64.ofNat (min (nanos / nanosPerMilli) maxWord))] } := by
  rw [setInterval, if_neg (Nat.not_lt.mpr h), if_neg he]

end Watchdog

/-- Something that is done to a watchdog, or that its event loop does. -/
inductive Deed where
  /-- The watchdog is started, with a source of signals about the network. -/
  | start (source : ℕ)
  /-- It is asked for an interval, given in nanoseconds. -/
  | setInterval (nanos : ℕ)
  /-- An indicator is bound. -/
  | bind (i : Indicator)
  /-- The watchdog is shut down. -/
  | shutdown
  /-- The event loop takes a signal from a source. -/
  | signal (m : Moment) (source : ℕ) (online : Bool)
  /-- The event loop takes the next request. -/
  | request (m : Moment)
  /-- The event loop deals with anything else. -/
  | turn (m : Moment) (i : Incident)

namespace Deed

def isStart : Deed → Bool
  | .start _ => true
  | _ => false

def isShutdown : Deed → Bool
  | .shutdown => true
  | _ => false

/-- Whether a watchdog is still as it was created, being neither started nor shut down. -/
def untouched (ds : List Deed) : Bool := ds.all fun d => !d.isStart && !d.isShutdown

variable {ds : List Deed} {d : Deed}

lemma untouched_concat :
    untouched (ds ++ [d]) ↔ untouched ds ∧ d.isStart = false ∧ d.isShutdown = false := by
  simp [untouched]

lemma any_isShutdown_of_untouched (h : untouched ds) : ds.any isShutdown = false := by
  refine List.any_eq_false.mpr fun d hd => ?_
  have hspared := List.all_eq_true.mp h d hd
  simp_all

lemma any_isShutdown_concat :
    (ds ++ [d]).any isShutdown = (ds.any isShutdown || d.isShutdown) := by
  simp

end Deed

/-- A watchdog, with the source of signals that its event loop listens to. -/
structure Session where
  watchdog : Watchdog
  source? : Option ℕ := none

namespace Session

/-- Whether a call to shut the watchdog down waits for the event loop to end. -/
def busy (s : Session) : Bool := decide (Request.shutdown ∈ s.watchdog.requests)

/-- What comes of a deed, and what is done about it. -/
def perform (s : Session) : Deed → Session × List Effect
  | .start source =>
    ({ watchdog := s.watchdog.start.2
       source? := if s.watchdog.start.1 then some source else s.source? }, [])
  | .setInterval nanos =>
    match s.watchdog.setInterval nanos with
    | .ok watchdog => ({ s with watchdog }, [])
    | .error _ => (s, [])
  | .bind i =>
    ({ s with watchdog := (s.watchdog.happen (.bind i)).1 }, (s.watchdog.happen (.bind i)).2)
  | .shutdown => ({ s with watchdog := s.watchdog.shutdown }, [])
  | .signal m _ online =>
    ({ s with watchdog := (s.watchdog.happen (.turn m (.signal online))).1 },
      (s.watchdog.happen (.turn m (.signal online))).2)
  | .request m =>
    ({ s with watchdog := (s.watchdog.takeRequest m).1 }, (s.watchdog.takeRequest m).2)
  | .turn m i =>
    ({ s with watchdog := (s.watchdog.happen (.turn m i)).1 },
      (s.watchdog.happen (.turn m i)).2)

/-- Whether a deed can be done: a call is made only when no other waits, and the event loop can do
what it does. -/
def admits (s : Session) : Deed → Bool
  | .start _ | .setInterval _ | .bind _ | .shutdown => !s.busy
  | .signal m source online =>
    decide (s.source? = some source) && s.watchdog.allows (.turn m (.signal online))
  | .request m => !s.watchdog.requests.isEmpty && s.watchdog.allows (.finish m)
  | .turn m i => i.isOther && s.watchdog.allows (.turn m i)

/-- The session after all the deeds of a list. -/
def after (s : Session) (ds : List Deed) : Session := ds.foldl (fun s d => (s.perform d).1) s

/-- Whether all the deeds of a list can be done, one after the other. -/
def admitted (s : Session) : List Deed → Bool
  | [] => true
  | d :: ds => s.admits d && (s.perform d).1.admitted ds

/-- What is gathered from the deeds of a list. -/
def along {α : Type} (f : Session → Deed → List α) (s : Session) : List Deed → List α
  | [] => []
  | d :: ds => f s d ++ along f (s.perform d).1 ds

/-- The interval of a request that is accepted, in whole milliseconds. -/
def accepts (s : Session) : Deed → List UInt64
  | .setInterval nanos =>
    match s.watchdog.setInterval nanos with
    | .ok _ => [UInt64.ofNat (min (nanos / nanosPerMilli) maxWord)]
    | .error _ => []
  | _ => []

/-- The interval of a request that the event loop takes. -/
def applies (s : Session) : Deed → List UInt64
  | .request _ =>
    match s.watchdog.requests with
    | .setInterval intervalMs :: _ => [intervalMs]
    | _ => []
  | _ => []

/-- The intervals of the requests that were accepted. -/
def accepted (s : Session) (ds : List Deed) : List UInt64 := s.along accepts ds

/-- The intervals of the requests that the event loop took. -/
def applied (s : Session) (ds : List Deed) : List UInt64 := s.along applies ds

/-- The commands that were sent to the background clock. -/
def commands (s : Session) (ds : List Deed) : List ClockCommand :=
  s.along (fun s d => (s.perform d).2.filterMap Effect.command?) ds

variable {s : Session} {d : Deed} {ds xs ys : List Deed}

lemma after_append (s : Session) (xs ys : List Deed) :
    s.after (xs ++ ys) = (s.after xs).after ys := by
  simp [after, List.foldl_append]

lemma after_concat (s : Session) (ds : List Deed) (d : Deed) :
    s.after (ds ++ [d]) = ((s.after ds).perform d).1 := after_append s ds [d]

lemma admitted_append : s.admitted (xs ++ ys) ↔ s.admitted xs ∧ (s.after xs).admitted ys := by
  induction xs generalizing s with
  | nil => simp [admitted, after]
  | cons d xs ih =>
    rw [List.cons_append, admitted, Bool.and_eq_true, ih, admitted, Bool.and_eq_true, and_assoc]
    rfl

lemma admitted_concat : s.admitted (ds ++ [d]) ↔ s.admitted ds ∧ (s.after ds).admits d := by
  rw [admitted_append, admitted, admitted, Bool.and_true]

lemma along_concat {α : Type} (f : Session → Deed → List α) (s : Session) (ds : List Deed)
    (d : Deed) : s.along f (ds ++ [d]) = s.along f ds ++ f (s.after ds) d := by
  induction ds generalizing s with
  | nil => simp [along, after]
  | cons x ds ih =>
    rw [List.cons_append, along, ih, along, List.append_assoc]
    rfl

lemma accepted_concat (s : Session) (ds : List Deed) (d : Deed) :
    s.accepted (ds ++ [d]) = s.accepted ds ++ (s.after ds).accepts d := along_concat _ s ds d

lemma applied_concat (s : Session) (ds : List Deed) (d : Deed) :
    s.applied (ds ++ [d]) = s.applied ds ++ (s.after ds).applies d := along_concat _ s ds d

lemma commands_concat (s : Session) (ds : List Deed) (d : Deed) :
    s.commands (ds ++ [d]) =
      s.commands ds ++ ((s.after ds).perform d).2.filterMap Effect.command? := along_concat _ s ds d

/-! ## What a deed can do -/

/-- The ways in which a deed that can be done changes a session. -/
inductive Change (s : Session) : Deed → Session → Prop
  /-- The event loop is spawned. -/
  | started {source : ℕ} (ready : s.watchdog.phase = .ready) :
    Change s (.start source)
      { watchdog := { s.watchdog with phase := .running }, source? := some source }
  /-- A request for an interval waits for the event loop. -/
  | queued {nanos : ℕ} (idle : s.busy = false) (lasting : s.watchdog.phase ≠ .ended)
    (accepts : s.accepts (.setInterval nanos) =
      [UInt64.ofNat (min (nanos / nanosPerMilli) maxWord)]) :
    Change s (.setInterval nanos) { s with
      watchdog.requests := s.watchdog.requests ++
        [.setInterval (UInt64.ofNat (min (nanos / nanosPerMilli) maxWord))] }
  /-- An indicator is bound. -/
  | bound {i : Indicator} :
    Change s (.bind i) { s with watchdog.core.indicators := (s.watchdog.core.indicators.bind i).2 }
  /-- The watchdog ends without ever having been started. -/
  | dropped (ready : s.watchdog.phase = .ready) :
    Change s .shutdown { s with watchdog.phase := .ended, watchdog.requests := [] }
  /-- The event loop is asked to end. -/
  | asked (idle : s.busy = false) (running : s.watchdog.phase = .running) :
    Change s .shutdown { s with watchdog.requests := s.watchdog.requests ++ [.shutdown] }
  /-- The event loop takes a signal from its source. -/
  | signalled {m : Moment} {source : ℕ} {online : Bool} (running : s.watchdog.phase = .running)
    (source? : s.source? = some source) :
    Change s (.signal m source online)
      { s with watchdog.core := (s.watchdog.core.step m (.signal online)).1 }
  /-- The event loop deals with something else. -/
  | turned {m : Moment} {i : Incident} (running : s.watchdog.phase = .running)
    (other : i.isOther) :
    Change s (.turn m i) { s with watchdog.core := (s.watchdog.core.step m i).1 }
  /-- The event loop takes a request for an interval. -/
  | applied {m : Moment} {n : UInt64} {rest : List Request} (running : s.watchdog.phase = .running)
    (requests : s.watchdog.requests = .setInterval n :: rest) :
    Change s (.request m) { s with
      watchdog.core := (s.watchdog.core.step m (.setInterval n)).1, watchdog.requests := rest }
  /-- The event loop ends. -/
  | finished {m : Moment} {rest : List Request} (running : s.watchdog.phase = .running)
    (requests : s.watchdog.requests = .shutdown :: rest) :
    Change s (.request m) { s with
      watchdog.core := (s.watchdog.core.finish m).1
      watchdog.phase := .ended
      watchdog.requests := [] }
  /-- A call has no effect. -/
  | kept {d : Deed} (accepts : s.accepts d = []) (applies : s.applies d = [])
    (start : d.isStart → s.watchdog.phase ≠ .ready)
    (shutdown : d.isShutdown → s.watchdog.phase = .ended) : Change s d s

variable {nanos : ℕ}

/-- A request that is refused changes nothing. -/
lemma perform_of_error {fault : Fault} (h : s.watchdog.setInterval nanos = .error fault) :
    (s.perform (.setInterval nanos)).1 = s := by
  rw [perform, h]

lemma change_of_error {fault : Fault} (h : s.watchdog.setInterval nanos = .error fault) :
    Change s (.setInterval nanos) (s.perform (.setInterval nanos)).1 := by
  rw [perform_of_error h]
  refine .kept ?_ rfl Bool.noConfusion Bool.noConfusion
  rw [accepts, h]

/-- **A deed that can be done is done in one of these ways.** -/
lemma change (ha : s.admits d) : Change s d (s.perform d).1 := by
  cases d with
  | start source =>
    by_cases hp : s.watchdog.phase = .ready
    · rw [perform, Watchdog.start, if_pos hp]
      exact .started hp
    · rw [perform, Watchdog.start, if_neg hp]
      exact .kept rfl rfl (fun _ => hp) Bool.noConfusion
  | setInterval nanos =>
    have hidle : s.busy = false := (Bool.not_eq_true' _).mp ha
    by_cases hlt : nanos < nanosPerMilli
    · exact change_of_error (Watchdog.setInterval_of_lt hlt)
    have hle := Nat.not_lt.mp hlt
    by_cases hp : s.watchdog.phase = .ended
    · exact change_of_error (Watchdog.setInterval_of_ended hle hp)
    · have haccepts : s.accepts (.setInterval nanos) =
          [UInt64.ofNat (min (nanos / nanosPerMilli) maxWord)] := by
        rw [accepts, Watchdog.setInterval_of_ne hle hp]
      rw [perform, Watchdog.setInterval_of_ne hle hp]
      exact .queued hidle hp haccepts
  | bind i => exact .bound
  | shutdown =>
    have hidle : s.busy = false := (Bool.not_eq_true' _).mp ha
    cases hp : s.watchdog.phase with
    | ready =>
      rw [perform, Watchdog.shutdown, hp]
      exact .dropped hp
    | running =>
      have hs : (s.perform .shutdown).1 =
          { s with watchdog.requests := s.watchdog.requests ++ [.shutdown] } := by
        simp [perform, Watchdog.shutdown, hp]
      rw [hs]
      exact .asked hidle hp
    | ended =>
      rw [perform, Watchdog.shutdown, hp]
      exact .kept rfl rfl Bool.noConfusion fun _ => hp
  | signal m source online =>
    obtain ⟨hsource, hallows⟩ := Bool.and_eq_true_iff.mp ha
    exact .signalled (Watchdog.allows_turn_iff.mp hallows).1 (of_decide_eq_true hsource)
  | request m =>
    obtain ⟨hne, hallows⟩ := Bool.and_eq_true_iff.mp ha
    have hp := (Watchdog.allows_finish_iff.mp hallows).1
    cases hr : s.watchdog.requests with
    | nil =>
      rw [hr] at hne
      cases hne
    | cons r rest =>
      cases r with
      | setInterval n =>
        rw [perform, Watchdog.takeRequest, hr]
        exact .applied hp hr
      | shutdown =>
        rw [perform, Watchdog.takeRequest, hr]
        exact .finished hp hr
  | turn m i =>
    obtain ⟨hother, hallows⟩ := Bool.and_eq_true_iff.mp ha
    exact .turned (Watchdog.allows_turn_iff.mp hallows).1 hother

/-! ## What is known of a session -/

/-- What is known of a session from the deeds that were done, and from the intervals that were
accepted and applied meanwhile. -/
structure Account (ds : List Deed) (accepted applied : List UInt64) (s : Session) : Prop where
  ready_iff : s.watchdog.phase = .ready ↔ Deed.untouched ds
  closed_iff : s.watchdog.phase = .ended ∨ .shutdown ∈ s.watchdog.requests ↔ ds.any Deed.isShutdown
  ready : s.watchdog.phase = .ready → s.source? = none
  running : s.watchdog.phase = .running → s.source?.isSome
  /-- The source is that of a first call. -/
  source? : ∀ source, s.source? = some source →
    ∃ xs ys, ds = xs ++ .start source :: ys ∧ Deed.untouched xs
  /-- The requests that were accepted and not applied still wait. -/
  waiting : s.watchdog.phase ≠ .ended → ∃ pending, accepted = applied ++ pending ∧
    s.watchdog.requests =
      pending.map .setInterval ++ if ds.any Deed.isShutdown then [.shutdown] else []
  /-- In the end all are applied. -/
  ended : s.watchdog.phase = .ended → s.watchdog.requests = [] ∧
    (s.source?.isSome → accepted = applied)

namespace Account

variable {accepted applied : List UInt64} {s' : Session}

lemma source?_concat (h : Account ds accepted applied s) (d : Deed) {source : ℕ}
    (hs : s.source? = some source) :
    ∃ xs ys, ds ++ [d] = xs ++ .start source :: ys ∧ Deed.untouched xs := by
  obtain ⟨xs, ys, rfl, hxs⟩ := h.source? source hs
  exact ⟨xs, ys ++ [d], by simp, hxs⟩

/-- While no call waits, the watchdog has ended just if somebody has shut it down. -/
lemma ended_iff (h : Account ds accepted applied s) (hidle : s.busy = false) :
    s.watchdog.phase = .ended ↔ ds.any Deed.isShutdown := by
  rw [← h.closed_iff]
  exact (or_iff_left (of_decide_eq_false hidle)).symm

lemma open_of_idle (h : Account ds accepted applied s) (hidle : s.busy = false)
    (hp : s.watchdog.phase ≠ .ended) : ds.any Deed.isShutdown = false := by
  rw [Bool.eq_false_iff, ne_eq, ← h.ended_iff hidle]
  exact hp

/-- A deed that leaves the phase and the requests as they are. -/
lemma keep (h : Account ds accepted applied s) (hphase : s'.watchdog.phase = s.watchdog.phase)
    (hrequests : s'.watchdog.requests = s.watchdog.requests) (hsource : s'.source? = s.source?)
    (hstart : d.isStart → s.watchdog.phase ≠ .ready)
    (hshutdown : d.isShutdown → s.watchdog.phase = .ended) :
    Account (ds ++ [d]) accepted applied s' := by
  have hany : (ds ++ [d]).any Deed.isShutdown = ds.any Deed.isShutdown := by
    rw [Deed.any_isShutdown_concat]
    cases hd : d.isShutdown with
    | false => exact Bool.or_false _
    | true =>
      rw [h.closed_iff.mp (.inl (hshutdown hd))]
      rfl
  have huntouched : Deed.untouched (ds ++ [d]) ↔ Deed.untouched ds := by
    rw [Deed.untouched_concat, ← h.ready_iff]
    refine and_iff_left_of_imp fun hp => ⟨?_, ?_⟩
    · exact Bool.eq_false_iff.mpr fun hd => hstart hd hp
    · refine Bool.eq_false_iff.mpr fun hd => ?_
      rw [hshutdown hd] at hp
      cases hp
  refine ⟨?_, ?_, ?_, ?_, ?_, ?_, ?_⟩
  · rw [hphase, huntouched]
    exact h.ready_iff
  · rw [hphase, hrequests, hany]
    exact h.closed_iff
  · rw [hphase, hsource]
    exact h.ready
  · rw [hphase, hsource]
    exact h.running
  · intro source hs
    exact h.source?_concat d (hsource ▸ hs)
  · rw [hphase, hrequests, hany]
    exact h.waiting
  · rw [hphase, hrequests, hsource]
    exact h.ended

/-- Until the end, a request to end waits just if somebody has shut the watchdog down. -/
lemma shutdown_mem_iff (h : Account ds accepted applied s) (hp : s.watchdog.phase ≠ .ended) :
    .shutdown ∈ s.watchdog.requests ↔ ds.any Deed.isShutdown := by
  rw [← h.closed_iff]
  exact (or_iff_right hp).symm

/-- When the next request is one for an interval, it is the first that was not applied yet. -/
lemma pending_of_setInterval {pending : List UInt64} {n : UInt64} {rest : List Request} {b : Bool}
    (h : pending.map Request.setInterval ++ (if b then [.shutdown] else []) =
      .setInterval n :: rest) :
    ∃ ps, pending = n :: ps ∧
      rest = ps.map Request.setInterval ++ if b then [.shutdown] else [] := by
  cases pending with
  | nil => cases b <;> simp at h
  | cons k ps =>
    obtain ⟨hk, hrest⟩ := List.cons.inj h
    cases hk
    exact ⟨ps, rfl, hrest.symm⟩

/-- When the next request is to end, all others were applied. -/
lemma pending_of_shutdown {pending : List UInt64} {rest : List Request} {b : Bool}
    (h : pending.map Request.setInterval ++ (if b then [.shutdown] else []) =
      .shutdown :: rest) : pending = [] := by
  cases pending with
  | nil => rfl
  | cons k ps => cases h

/-- **A deed keeps the account.** -/
lemma perform (h : Account ds accepted applied s) (ha : s.admits d) :
    Account (ds ++ [d]) (accepted ++ s.accepts d) (applied ++ s.applies d) (s.perform d).1 := by
  have hc := change ha
  generalize (s.perform d).1 = s' at hc ⊢
  cases hc with
  | @started source hp =>
    have hlasting : s.watchdog.phase ≠ .ended := by simp [hp]
    simp only [accepts, applies, List.append_nil]
    refine ⟨?_, ?_, nofun, fun _ => rfl, ?_, fun _ => ?_, nofun⟩
    · simp [Deed.untouched_concat, Deed.isStart]
    · simpa [Deed.any_isShutdown_concat, Deed.isShutdown] using h.shutdown_mem_iff hlasting
    · rintro _ ⟨⟩
      exact ⟨ds, [], rfl, h.ready_iff.mp hp⟩
    · simpa [Deed.any_isShutdown_concat, Deed.isShutdown] using h.waiting hlasting
  | queued hidle hlasting haccepts =>
    have hopen := h.open_of_idle hidle hlasting
    rw [haccepts]
    simp only [applies, List.append_nil]
    refine ⟨?_, ?_, h.ready, h.running, fun _ => h.source?_concat _, fun _ => ?_,
      fun he => absurd he hlasting⟩
    · simpa [Deed.untouched_concat, Deed.isStart, Deed.isShutdown] using h.ready_iff
    · simpa [Deed.any_isShutdown_concat, Deed.isShutdown] using h.closed_iff
    · obtain ⟨pending, rfl, hr⟩ := h.waiting hlasting
      refine ⟨pending ++ [_], List.append_assoc _ _ _, ?_⟩
      simp [hr, hopen, Deed.isShutdown]
  | bound | signalled | turned =>
    simp only [accepts, applies, List.append_nil]
    exact h.keep rfl rfl rfl Bool.noConfusion Bool.noConfusion
  | dropped hp =>
    simp only [accepts, applies, List.append_nil]
    refine ⟨?_, ?_, nofun, nofun, fun _ => h.source?_concat _, fun he => absurd rfl he, ?_⟩
    · simp [Deed.untouched_concat, Deed.isShutdown]
    · simp [Deed.isShutdown]
    · refine fun _ => ⟨rfl, fun hs => ?_⟩
      rw [h.ready hp] at hs
      cases hs
  | asked hidle hp =>
    have hlasting : s.watchdog.phase ≠ .ended := by simp [hp]
    have hopen := h.open_of_idle hidle hlasting
    simp only [accepts, applies, List.append_nil]
    refine ⟨?_, ?_, h.ready, h.running, fun _ => h.source?_concat _, fun _ => ?_,
      fun he => absurd he hlasting⟩
    · simp [hp, Deed.untouched_concat, Deed.isShutdown]
    · simp [Deed.isShutdown]
    · obtain ⟨pending, heq, hr⟩ := h.waiting hlasting
      refine ⟨pending, heq, ?_⟩
      simp [hr, hopen, Deed.isShutdown]
  | @applied m n rest hp hr =>
    have hlasting : s.watchdog.phase ≠ .ended := by simp [hp]
    obtain ⟨pending, rfl, hrequests⟩ := h.waiting hlasting
    obtain ⟨ps, rfl, hrest⟩ := pending_of_setInterval (hrequests.symm.trans hr)
    have hmem := h.shutdown_mem_iff hlasting
    simp only [accepts, applies, hr, List.append_nil]
    refine ⟨?_, ?_, h.ready, h.running, fun _ => h.source?_concat _, fun _ => ⟨ps, by simp, ?_⟩,
      fun he => absurd he hlasting⟩
    · simpa [Deed.untouched_concat, Deed.isStart, Deed.isShutdown] using h.ready_iff
    · simpa [hp, hr, Deed.isShutdown] using hmem
    · simpa [Deed.any_isShutdown_concat, Deed.isShutdown] using hrest
  | finished hp hr =>
    have hlasting : s.watchdog.phase ≠ .ended := by simp [hp]
    obtain ⟨pending, rfl, hrequests⟩ := h.waiting hlasting
    have hnone := pending_of_shutdown (hrequests.symm.trans hr)
    have hmem := (h.shutdown_mem_iff hlasting).mp (hr ▸ List.mem_cons_self)
    have hready : ¬ Deed.untouched ds := by
      rw [← h.ready_iff, hp]
      nofun
    simp only [accepts, applies, hr, List.append_nil]
    refine ⟨?_, ?_, nofun, nofun, fun _ => h.source?_concat _, fun he => absurd rfl he, ?_⟩
    · simpa [Deed.untouched_concat, Deed.isStart, Deed.isShutdown] using hready
    · simpa [Deed.isShutdown] using hmem
    · refine fun _ => ⟨rfl, fun _ => ?_⟩
      rw [hnone, List.append_nil]
  | kept haccepts happlies hstart hshutdown =>
    rw [haccepts, happlies, List.append_nil, List.append_nil]
    exact h.keep rfl rfl rfl hstart hshutdown

end Account

variable {config : HeartbeatConfig} {workerHeld : Bool} {w : Watchdog} {m : Moment}

/-- A watchdog that was just created. -/
lemma eq_of_new (hw : Watchdog.new config workerHeld = .ok w) :
    w = { core := .new config workerHeld } := by
  rw [Watchdog.new] at hw
  split at hw <;> cases hw
  rfl

lemma account (hw : Watchdog.new config workerHeld = .ok w)
    (ha : ({ watchdog := w } : Session).admitted ds) :
    let s : Session := { watchdog := w }
    Account ds (s.accepted ds) (s.applied ds) (s.after ds) := by
  intro s
  -- induction on the deeds, the latest first
  induction ds using List.reverseRecOn with
  | nil =>
    obtain rfl := eq_of_new hw
    refine ⟨?_, ?_, fun _ => rfl, nofun, nofun, fun _ => ⟨[], rfl, rfl⟩, nofun⟩
    · exact iff_of_true rfl rfl
    · exact iff_of_false (by rintro (h | h) <;> cases h) nofun
  | append_singleton xs d ih =>
    obtain ⟨hx, hd⟩ := admitted_concat.mp ha
    rw [accepted_concat, applied_concat, after_concat]
    exact (ih hx).perform hd

end Session

end LinkWatch
