/-
# What the handle promises

Whatever is done to a watchdog through its handle, one call after the other: only the first call to
start it spawns an event loop, every request that is accepted is applied before the loop ends, the
background clock is told to stop last of all, and the snapshot that is left shows a watchdog that
has come to rest (`Session.lifecycle`).  A call to shut the watchdog down never has to wait for
anything but the heartbeat that is under way and the requests before it
(`Session.shutdown_returns`).
-/
import LinkWatch.Proofs.Watchdog.Adoption
import LinkWatch.Proofs.Watchdog.Calls

namespace LinkWatch

namespace Session

variable {config : HeartbeatConfig} {workerHeld : Bool} {w : Watchdog} {s : Session} {d : Deed}
  {ds : List Deed} {m : Moment}

/-! ## The interval -/

lemma config_perform (ha : s.admits d) :
    (s.perform d).1.watchdog.core.config = s.watchdog.core.config := by
  have hc := change ha
  generalize (s.perform d).1 = s' at hc ⊢
  cases hc with
  | signalled | turned | applied => exact Core.config_step _ _ _
  | finished => exact Core.config_finish _ _
  | _ => rfl

/-- Unless the server asks for an interval, it is set by the requests that the event loop takes. -/
lemma intervalMs_perform (ha : s.admits d)
    (hd : ∀ m i, d = .turn m i → i.requestedMs? = none) :
    (s.perform d).1.watchdog.core.regime.intervalMs =
      ((s.applies d).getLast?.map s.watchdog.core.config.clamp).getD
        s.watchdog.core.regime.intervalMs := by
  have hc := change ha
  generalize (s.perform d).1 = s' at hc ⊢
  cases hc with
  | signalled =>
    show ((s.watchdog.core.step _ _).1.regime).intervalMs = _
    rw [Core.regime_step]
    rfl
  | @turned m i _ hother =>
    show ((s.watchdog.core.step m i).1.regime).intervalMs = _
    rw [Core.regime_step, Regime.after_of_other _ _ (hd m i rfl)]
    · rfl
    · rintro online rfl
      cases hother
  | @applied m n rest _ hr =>
    show ((s.watchdog.core.step m (.setInterval n)).1.regime).intervalMs = _
    rw [Core.regime_step, Regime.after_of_requestedMs? _ _ rfl, applies, hr]
    rfl
  | @finished m rest _ hr =>
    show ((s.watchdog.core.finish m).1.regime).intervalMs = _
    rw [Core.regime_finish, applies, hr]
    rfl
  | kept _ happlies => rw [happlies]; rfl
  | _ => rfl

lemma config_after (ha : s.admitted ds) :
    (s.after ds).watchdog.core.config = s.watchdog.core.config := by
  induction ds using List.reverseRecOn with
  | nil => rfl
  | append_singleton xs d ih =>
    obtain ⟨hx, hd⟩ := admitted_concat.mp ha
    rw [after_concat, config_perform hd, ih hx]

lemma intervalMs_after (ha : s.admitted ds)
    (hds : ∀ m i, .turn m i ∈ ds → i.requestedMs? = none) :
    (s.after ds).watchdog.core.regime.intervalMs =
      ((s.applied ds).getLast?.map s.watchdog.core.config.clamp).getD
        s.watchdog.core.regime.intervalMs := by
  -- induction on the deeds, the latest first
  induction ds using List.reverseRecOn with
  | nil => rfl
  | append_singleton xs d ih =>
    obtain ⟨hx, hd⟩ := admitted_concat.mp ha
    have hlast : ∀ m i, d = .turn m i → i.requestedMs? = none := by
      rintro m i rfl
      exact hds m i (List.mem_append_right _ List.mem_cons_self)
    have hinit := ih hx fun m i hi => hds m i (List.mem_append_left _ hi)
    rw [after_concat, intervalMs_perform hd hlast, config_after hx, hinit, applied_concat,
      List.getLast?_append]
    cases (applies (s.after xs) d).getLast? <;> rfl

/-! ## The end -/

/-- What no deed changes after the end. -/
structure Settled (s s' : Session) : Prop where
  phase : s'.watchdog.phase = .ended
  source? : s'.source? = s.source?
  status : s'.watchdog.status = s.watchdog.status
  regime : s'.watchdog.core.regime = s.watchdog.core.regime
  workerHeld : s'.watchdog.core.workerHeld = s.watchdog.core.workerHeld

/-- After the end nothing is done any more but to bind indicators. -/
lemma settled_perform (hp : s.watchdog.phase = .ended) (ha : s.admits d) :
    s.Settled (s.perform d).1 := by
  have hc := change ha
  generalize (s.perform d).1 = s' at hc ⊢
  cases hc with
  | bound | kept => exact ⟨hp, rfl, rfl, rfl, rfl⟩
  | queued _ hlasting => exact absurd hp hlasting
  | started h | dropped h => simp [hp] at h
  | asked _ h | signalled h | turned h | applied h | finished h => simp [hp] at h

lemma commands_of_ended (hp : s.watchdog.phase = .ended) (ha : s.admits d) :
    (s.perform d).2.filterMap Effect.command? = [] := by
  cases d with
  | setInterval nanos =>
    rw [perform]
    split <;> rfl
  | signal | turn | request => simp [admits, Watchdog.allows, hp] at ha
  | _ => rfl

/-- A watchdog that has ended did so by one of the deeds, and after that nothing was done. -/
lemma exists_end (hs : s.watchdog.phase ≠ .ended) (ha : s.admitted ds)
    (hp : (s.after ds).watchdog.phase = .ended) :
    ∃ xs d ys, ds = xs ++ d :: ys ∧ s.admitted xs ∧ (s.after xs).admits d ∧
      (s.after xs).watchdog.phase ≠ .ended ∧
      ((s.after xs).perform d).1.watchdog.phase = .ended ∧
      ((s.after xs).perform d).1.Settled (s.after ds) ∧
      s.commands ds =
        s.commands xs ++ ((s.after xs).perform d).2.filterMap Effect.command? := by
  -- induction on the deeds, the latest first
  induction ds using List.reverseRecOn with
  | nil => exact absurd hp hs
  | append_singleton xs d ih =>
    obtain ⟨hx, hd⟩ := admitted_concat.mp ha
    by_cases hbefore : (s.after xs).watchdog.phase = .ended
    · -- the end was before
      obtain ⟨as, x, bs, rfl, has, hax, hne, hend, hsettled, hcommands⟩ := ih hx hbefore
      have hnext := settled_perform hbefore hd
      refine ⟨as, x, bs ++ [d], by simp, has, hax, hne, hend, ?_, ?_⟩
      · rw [after_concat]
        exact ⟨hnext.phase, hnext.source?.trans hsettled.source?,
          hnext.status.trans hsettled.status, hnext.regime.trans hsettled.regime,
          hnext.workerHeld.trans hsettled.workerHeld⟩
      · rw [commands_concat, commands_of_ended hbefore hd, List.append_nil, hcommands]
    · rw [after_concat] at hp ⊢
      exact ⟨xs, d, [], rfl, hx, hd, hbefore, hp, ⟨hp, rfl, rfl, rfl, rfl⟩,
        commands_concat s xs d⟩

lemma started_perform (ha : s.admits d) (hs : s.source?.isSome) :
    (s.perform d).1.source?.isSome := by
  have hc := change ha
  generalize (s.perform d).1 = s' at hc ⊢
  cases hc with
  | started => rfl
  | _ => exact hs

/-- Once the event loop has a source of signals, it keeps one. -/
lemma started_after (ha : s.admitted ds) (hs : s.source?.isSome) : (s.after ds).source?.isSome := by
  induction ds generalizing s with
  | nil => exact hs
  | cons d ds ih =>
    obtain ⟨hd, hrest⟩ := Bool.and_eq_true_iff.mp ha
    exact ih hrest (started_perform hd hs)

/-- Before the event loop runs, the snapshot of the beginning is shown. -/
lemma fresh (hw : Watchdog.new config workerHeld = .ok w)
    (ha : ({ watchdog := w } : Session).admitted ds)
    (hp : (({ watchdog := w } : Session).after ds).watchdog.phase = .ready) :
    let c := (({ watchdog := w } : Session).after ds).watchdog.core
    c.published = c.status ∧ c.published.foregroundRunning = false := by
  -- induction on the deeds, the latest first
  induction ds using List.reverseRecOn with
  | nil =>
    obtain rfl := eq_of_new hw
    exact ⟨rfl, rfl⟩
  | append_singleton xs d ih =>
    obtain ⟨hx, hd⟩ := admitted_concat.mp ha
    rw [after_concat] at hp ⊢
    have hc := change hd
    generalize (({ watchdog := w } : Session).after xs) = t at *
    generalize (t.perform d).1 = s' at hc hp ⊢
    cases hc with
    | queued | bound | kept => exact ih hx hp
    | started h | dropped h | finished h => cases hp
    | asked _ h | signalled h | turned h | applied h => simp [h] at hp

/-- What the last turn of the event loop shows. -/
lemma published_finish (c : Core) (m : Moment) :
    (c.finish m).1.published.foregroundRunning = false ∧
      (c.finish m).1.published.onLine = c.status.onLine ∧
      (c.finish m).1.published.intervalMs = c.status.intervalMs := by
  rw [Core.finish_fst]
  exact ⟨rfl, rfl, rfl⟩

/-- The snapshot that is shown in the end: the foreground timer does not run, and the regime is the
one just before the watchdog ended. -/
def ShownAtEnd (s : Session) (ds : List Deed) : Prop :=
  ∃ xs d ys, ds = xs ++ d :: ys ∧ (s.after xs).watchdog.phase ≠ .ended ∧
    (s.after (xs ++ [d])).watchdog.phase = .ended ∧
    (s.after ds).watchdog.status.foregroundRunning = false ∧
    (s.after ds).watchdog.status.onLine = (s.after xs).watchdog.core.status.onLine ∧
    (s.after ds).watchdog.status.intervalMs = (s.after xs).watchdog.core.status.intervalMs ∧
    (s.after ds).watchdog.core.regime = (s.after xs).watchdog.core.regime

lemma phase_ne_ended_of_new (hw : Watchdog.new config workerHeld = .ok w) : w.phase ≠ .ended := by
  rw [eq_of_new hw]
  nofun

lemma shownAtEnd (hw : Watchdog.new config workerHeld = .ok w)
    (ha : ({ watchdog := w } : Session).admitted ds)
    (hp : (({ watchdog := w } : Session).after ds).watchdog.phase = .ended) :
    ({ watchdog := w } : Session).ShownAtEnd ds := by
  obtain ⟨xs, d, ys, rfl, hx, hd, hne, hend, hsettled, -⟩ :=
    exists_end (phase_ne_ended_of_new hw) ha hp
  refine ⟨xs, d, ys, rfl, hne, by rwa [after_concat], ?_⟩
  have hfresh := fresh hw hx
  have hc := change hd
  rw [hsettled.status, hsettled.regime]
  clear hsettled
  generalize (({ watchdog := w } : Session).after xs) = t at *
  generalize (t.perform d).1 = s' at hc hend ⊢
  cases hc with
  | dropped hready =>
    obtain ⟨heq, hoff⟩ := hfresh hready
    exact ⟨hoff, congrArg Status.onLine heq, congrArg Status.intervalMs heq, rfl⟩
  | @finished m =>
    obtain ⟨hoff, hon, hinterval⟩ := published_finish t.watchdog.core m
    exact ⟨hoff, hon, hinterval, Core.regime_finish m t.watchdog.core⟩
  | started => cases hend
  | _ => exact absurd hend hne

/-- At its end the event loop tells the background clock to stop, if the clock takes commands. -/
lemma commands_finish {rest : List Request} (hr : s.watchdog.requests = .shutdown :: rest) :
    (s.perform (.request m)).2.filterMap Effect.command? =
      if (s.perform (.request m)).1.watchdog.core.workerHeld then [.stop] else [] := by
  have hheld : (s.watchdog.core.finish m).1.workerHeld =
      (s.watchdog.core.workerHeld && m.listening) := by
    rw [Core.finish_fst]
    rfl
  rw [perform, Watchdog.takeRequest, hr]
  show (s.watchdog.core.finish m).2.filterMap Effect.command? =
    if (s.watchdog.core.finish m).1.workerHeld then [.stop] else []
  rw [hheld, ← Effect.filterMap_command?_acts, Core.finish_acts, List.filterMap_append,
    Core.filterMap_command?_tellClock]
  exact List.append_nil _

lemma getLast?_commands (hw : Watchdog.new config workerHeld = .ok w)
    (ha : ({ watchdog := w } : Session).admitted ds)
    (hp : (({ watchdog := w } : Session).after ds).watchdog.phase = .ended)
    (hs : (({ watchdog := w } : Session).after ds).source?.isSome)
    (hheld : (({ watchdog := w } : Session).after ds).watchdog.core.workerHeld = true) :
    (({ watchdog := w } : Session).commands ds).getLast? = some .stop := by
  obtain ⟨xs, d, ys, rfl, hx, hd, hne, hend, hsettled, hcommands⟩ :=
    exists_end (phase_ne_ended_of_new hw) ha hp
  have hready := (account hw hx).ready
  have hc := change hd
  rw [hsettled.source?] at hs
  rw [hsettled.workerHeld] at hheld
  rw [hcommands]
  clear hsettled
  generalize (({ watchdog := w } : Session).after xs) = t at *
  generalize hs' : (t.perform d).1 = s' at hc hend hs hheld
  cases hc with
  | dropped h =>
    -- it was never started
    rw [hready h] at hs
    cases hs
  | finished _ hr =>
    rw [commands_finish hr, hs', if_pos hheld]
    exact List.getLast?_concat
  | started => cases hend
  | _ => exact absurd hend hne

/-! ## A call that waits -/

lemma admits_request {r : Request} {rest : List Request} (m : Moment)
    (hp : s.watchdog.phase = .running) (hidle : s.watchdog.core.emitting = false)
    (hr : s.watchdog.requests = r :: rest) : s.admits (.request m) := by
  rw [admits, hr]
  exact (Watchdog.allows_finish_iff (m := m)).mpr ⟨hp, hidle⟩

/-- When the event loop takes one request after the other, it comes to the one to end. -/
lemma ended_of_requests (m : Moment) {pending : List UInt64} (hp : s.watchdog.phase = .running)
    (hidle : s.watchdog.core.emitting = false)
    (hr : s.watchdog.requests = pending.map .setInterval ++ [.shutdown]) :
    s.admitted (List.replicate (pending.length + 1) (.request m)) ∧
      (s.after (List.replicate (pending.length + 1) (.request m))).watchdog.phase = .ended := by
  induction pending generalizing s with
  | nil =>
    have ha := admits_request m hp hidle hr
    refine ⟨Bool.and_eq_true_iff.mpr ⟨ha, rfl⟩, ?_⟩
    show (s.perform (.request m)).1.watchdog.phase = .ended
    rw [perform, Watchdog.takeRequest, hr]
    rfl
  | cons n ps ih =>
    have ha := admits_request m hp hidle hr
    have hs : (s.perform (.request m)).1 = { s with
        watchdog.core := (s.watchdog.core.step m (.setInterval n)).1
        watchdog.requests := ps.map .setInterval ++ [.shutdown] } := by
      rw [perform, Watchdog.takeRequest, hr]
      rfl
    have hnext := ih (s := (s.perform (.request m)).1) (by rw [hs]; exact hp) (by
      rw [hs]
      exact (Core.emitting_step_of_steers rfl).trans hidle) (by rw [hs])
    exact ⟨Bool.and_eq_true_iff.mpr ⟨ha, hnext.1⟩, hnext.2⟩

/-- **A call to shut the watchdog down can always return.**  Once the heartbeat that is under way is
answered, the event loop has only to take the requests that wait. -/
theorem shutdown_returns (created : Watchdog.new config workerHeld = .ok w)
    (admitted : ({ watchdog := w } : Session).admitted ds)
    (waiting : (({ watchdog := w } : Session).after ds).busy = true) (m : Moment) :
    let s := ({ watchdog := w } : Session).after ds
    ∃ n es, (es = [] ∨ es = [.turn m (.emitted (.ok ()))]) ∧
      s.admitted (es ++ List.replicate n (.request m)) ∧
      (s.after (es ++ List.replicate n (.request m))).watchdog.phase = .ended := by
  intro s
  have hacc := account created admitted
  have hmem : Request.shutdown ∈ s.watchdog.requests := of_decide_eq_true waiting
  have hlasting : s.watchdog.phase ≠ .ended := by
    intro he
    rw [(hacc.ended he).1] at hmem
    cases hmem
  have hshut := (hacc.shutdown_mem_iff hlasting).mp hmem
  have hp : s.watchdog.phase = .running := by
    cases hphase : s.watchdog.phase with
    | running => rfl
    | ended => exact absurd hphase hlasting
    | ready =>
      rw [Deed.any_isShutdown_of_untouched (hacc.ready_iff.mp hphase)] at hshut
      cases hshut
  obtain ⟨pending, -, hr⟩ := hacc.waiting hlasting
  rw [hshut, if_pos rfl] at hr
  cases hemit : s.watchdog.core.emitting with
  | false =>
    obtain ⟨ha, hend⟩ := ended_of_requests m hp hemit hr
    exact ⟨pending.length + 1, [], .inl rfl, ha, hend⟩
  | true =>
    have ha : s.admits (.turn m (.emitted (.ok ()))) :=
      Watchdog.allows_turn_iff.mpr ⟨hp, hemit⟩
    have hanswered : (s.watchdog.core.step m (.emitted (.ok ()))).1.emitting = false := by
      rw [Core.step_fst, Core.emitting_shown]
      rfl
    obtain ⟨hadm, hend⟩ := ended_of_requests (s := (s.perform (.turn m (.emitted (.ok ())))).1) m
      hp hanswered hr
    exact ⟨_, [_], .inr rfl, Bool.and_eq_true_iff.mpr ⟨ha, hadm⟩, hend⟩

/-! ## What the handle promises -/

/-- The first call to start the watchdog spawns the event loop, if nobody has shut it down before,
and nothing else does. -/
lemma running_perform_iff {accepted applied : List UInt64} (h : Account ds accepted applied s)
    (ha : s.admits d) (hp : s.watchdog.phase ≠ .running) :
    (s.perform d).1.watchdog.phase = .running ↔ d.isStart ∧ Deed.untouched ds := by
  have hc := change ha
  rw [← h.ready_iff]
  generalize (s.perform d).1 = s' at hc ⊢
  cases hc with
  | started hr => exact iff_of_true rfl ⟨rfl, hr⟩
  | kept _ _ hstart _ =>
    refine iff_of_false hp ?_
    rintro ⟨hd, hr⟩
    exact hstart hd hr
  | dropped | finished => exact iff_of_false nofun nofun
  | _ => exact iff_of_false hp fun h => Bool.noConfusion h.1

lemma start_iff {accepted applied : List UInt64} (h : Account ds accepted applied s) :
    s.watchdog.start.1 ↔ Deed.untouched ds := by
  rw [← h.ready_iff, Watchdog.start]
  split <;> simp_all

lemma perform_start_of_false {source : ℕ} (h : s.watchdog.start.1 = false) :
    (s.perform (.start source)).1 = s := by
  rw [Watchdog.start] at h
  split at h
  · cases h
  next hp => rw [perform, Watchdog.start, if_neg hp]; rfl

/-- What becomes of a request for an interval. -/
lemma setInterval_eq {accepted applied : List UInt64} (h : Account ds accepted applied s)
    (hidle : s.busy = false) (nanos : ℕ) :
    s.watchdog.setInterval nanos =
      if nanos < nanosPerMilli then .error (.invalidInterval (Duration.text nanos))
      else if ds.any Deed.isShutdown then .error .stopped
      else .ok { s.watchdog with requests := s.watchdog.requests ++
        [.setInterval (UInt64.ofNat (min (nanos / nanosPerMilli) maxWord))] } := by
  by_cases hlt : nanos < nanosPerMilli
  · rw [if_pos hlt, Watchdog.setInterval_of_lt hlt]
  rw [if_neg hlt]
  by_cases hp : s.watchdog.phase = .ended
  · rw [if_pos ((h.ended_iff hidle).mp hp), Watchdog.setInterval_of_ended (Nat.not_lt.mp hlt) hp]
  · rw [if_neg (mt (h.ended_iff hidle).mpr hp), Watchdog.setInterval_of_ne (Nat.not_lt.mp hlt) hp]

/-- **What the handle promises.**  Take a watchdog with a valid configuration, and any calls of its
handle, one after the other, with whatever the event loop does in between.

* The event loop is spawned by the first call to start the watchdog, if nobody has shut it down
  before, and by no other call; another call to start it changes nothing, so that its source of
  signals is dropped, and the event loop hears no source but that of the first.
* A request for less than a millisecond is always refused as invalid.  Any other is accepted until
  the watchdog is shut down for the first time, and refused from then on because it has stopped.
  What is refused changes nothing.
* Once a call to shut the watchdog down has returned, the watchdog has ended.  If it was started,
  all requests that were accepted have been applied, in the order of the calls, so that the interval
  is the last of them within the bounds if the server asked for none; and the last command to a
  clock that is still attached was to stop.  In any case the snapshot that is shown says that the
  foreground timer does not run, and the rest of the regime is as it was last. -/
theorem lifecycle (created : Watchdog.new config workerHeld = .ok w)
    (admitted : ({ watchdog := w } : Session).admitted ds) :
    let s : Session := { watchdog := w }
    (∀ xs d ys, ds = xs ++ d :: ys → (s.after xs).watchdog.phase ≠ .running →
      ((s.after (xs ++ [d])).watchdog.phase = .running ↔ d.isStart ∧ Deed.untouched xs)) ∧
    (∀ xs source ys, ds = xs ++ .start source :: ys →
      ((s.after xs).watchdog.start.1 ↔ Deed.untouched xs) ∧
      (¬Deed.untouched xs → s.after (xs ++ [.start source]) = s.after xs)) ∧
    (∀ xs m source online ys, ds = xs ++ .signal m source online :: ys →
      ∃ as bs, xs = as ++ .start source :: bs ∧ Deed.untouched as) ∧
    (∀ xs nanos ys, ds = xs ++ .setInterval nanos :: ys →
      let v := (s.after xs).watchdog
      (v.setInterval nanos =
        if nanos < nanosPerMilli then .error (.invalidInterval (Duration.text nanos))
        else if xs.any Deed.isShutdown then .error .stopped
        else .ok { v with requests := v.requests ++
          [.setInterval (UInt64.ofNat (min (nanos / nanosPerMilli) maxWord))] }) ∧
      ∀ fault, v.setInterval nanos = .error fault →
        s.after (xs ++ [.setInterval nanos]) = s.after xs) ∧
    (ds.any Deed.isShutdown → (s.after ds).busy = false →
      (s.after ds).watchdog.phase = .ended ∧ s.ShownAtEnd ds ∧
      ((∃ xs ys, ds = xs ++ ys ∧ (s.after xs).watchdog.phase = .running) →
        s.applied ds = s.accepted ds ∧
        ((∀ m i, .turn m i ∈ ds → i.requestedMs? = none) →
          (s.after ds).watchdog.status.intervalMs =
            ((s.accepted ds).getLast?.map config.clamp).getD config.intervalMs) ∧
        ((s.after ds).watchdog.core.workerHeld = true →
          (s.commands ds).getLast? = some .stop))) := by
  intro s
  have hcore : s.watchdog.core = .new config workerHeld :=
    congrArg Watchdog.core (eq_of_new created)
  have hsplit : ∀ {xs d ys}, ds = xs ++ d :: ys →
      s.admitted xs ∧ (s.after xs).admits d ∧
        Account xs (s.accepted xs) (s.applied xs) (s.after xs) := by
    rintro xs d ys rfl
    rw [List.append_cons] at admitted
    obtain ⟨hx, hd⟩ := admitted_concat.mp (admitted_append.mp admitted).1
    exact ⟨hx, hd, account created hx⟩
  refine ⟨?_, ?_, ?_, ?_, ?_⟩
  · intro xs d ys h hp
    obtain ⟨hx, hd, hacc⟩ := hsplit h
    rw [after_concat]
    exact running_perform_iff hacc hd hp
  · intro xs source ys h
    obtain ⟨hx, hd, hacc⟩ := hsplit h
    refine ⟨start_iff hacc, fun hu => ?_⟩
    rw [after_concat]
    exact perform_start_of_false (Bool.eq_false_iff.mpr fun ht => hu ((start_iff hacc).mp ht))
  · intro xs m source online ys h
    obtain ⟨hx, hd, hacc⟩ := hsplit h
    exact hacc.source? source (of_decide_eq_true (Bool.and_eq_true_iff.mp hd).1)
  · intro xs nanos ys h
    obtain ⟨hx, hd, hacc⟩ := hsplit h
    intro v
    refine ⟨setInterval_eq hacc ((Bool.not_eq_true' _).mp hd) nanos, fun fault hfault => ?_⟩
    rw [after_concat]
    exact perform_of_error hfault
  · intro hshut hidle
    have hacc := account created admitted
    have hended := (hacc.ended_iff hidle).mpr hshut
    have hshown := shownAtEnd created admitted hended
    refine ⟨hended, hshown, ?_⟩
    rintro ⟨xs, ys, hxs, hrunning⟩
    have hstarted : (s.after ds).source?.isSome := by
      subst hxs
      obtain ⟨hx, hy⟩ := admitted_append.mp admitted
      rw [after_append]
      exact started_after hy ((account created hx).running hrunning)
    have happlied := ((hacc.ended hended).2 hstarted).symm
    refine ⟨happlied, fun hnone => ?_, getLast?_commands created admitted hended hstarted⟩
    obtain ⟨as, d, bs, -, -, -, -, -, hinterval, hregime⟩ := hshown
    have hlast := intervalMs_after admitted hnone
    rw [hregime, happlied, hcore] at hlast
    exact hinterval.trans hlast

/-- An interval is asked for before the watchdog is started and another one after that; then it is
shut down.  Half a microsecond is asked for as well, and in the end the watchdog is started once
more. -/
def dealings : List Deed :=
  [.setInterval (millis 5000), .start 1, .signal ⟨0, .epoch, true⟩ 1 true, .start 2,
    .setInterval 500, .setInterval (millis 7000), .shutdown, .request ⟨millis 100, .epoch, true⟩,
    .request ⟨millis 100, .epoch, true⟩, .request ⟨millis 100, .epoch, true⟩, .start 3]

/-- A watchdog with the default configuration and a background clock. -/
def attended : Session := { watchdog := { core := .new {} true } }

theorem lifecycle_of_dealings :
    Watchdog.new {} true = .ok attended.watchdog ∧ attended.admitted dealings = true ∧
      attended.applied dealings = [5000, 7000] ∧
      (attended.after dealings).watchdog.status.intervalMs = 7000 ∧
      (attended.after dealings).watchdog.status.foregroundRunning = false ∧
      (attended.commands dealings).getLast? = some .stop := by
  have hw : Watchdog.new {} true = .ok attended.watchdog := rfl
  have ha : attended.admitted dealings = true := by decide
  have hshut : dealings.any Deed.isShutdown = true := by decide
  have hidle : (attended.after dealings).busy = false := by decide
  have hstarted : (attended.after (dealings.take 2)).watchdog.phase = .running := by decide
  have hheld : (attended.after dealings).watchdog.core.workerHeld = true := by decide
  have haccepted : attended.accepted dealings = [5000, 7000] := by decide
  have hnone : ∀ m i, .turn m i ∈ dealings → i.requestedMs? = none := by
    intro m i h
    simp [dealings] at h
  obtain ⟨-, -, -, -, hend⟩ := lifecycle hw ha
  obtain ⟨-, ⟨as, d, bs, -, -, -, hoff, -⟩, hrun⟩ := hend hshut hidle
  obtain ⟨happlied, hinterval, hlast⟩ := hrun ⟨dealings.take 2, dealings.drop 2, rfl, hstarted⟩
  have hclamp : (([5000, 7000].getLast?.map ({} : HeartbeatConfig).clamp).getD 2000) = 7000 := by
    decide
  have hfinal : (attended.after dealings).watchdog.status.intervalMs =
      ((attended.accepted dealings).getLast?.map ({} : HeartbeatConfig).clamp).getD 2000 :=
    hinterval hnone
  rw [haccepted] at hfinal
  exact ⟨hw, ha, happlied.trans haccepted, hfinal.trans hclamp, hoff, hlast hheld⟩

end Session

end LinkWatch
