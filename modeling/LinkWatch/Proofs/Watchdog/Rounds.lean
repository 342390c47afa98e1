/-
# Rounds of notices

When the network comes or goes, the event loop first takes note of it and then tells the
indicators, one after the other in a round.  Others bind indicators at any time, also while the
loop is in the middle of this.  A binding and a round exclude each other, but a binding may well
come when the loop has taken note of the change and not yet told anybody.

`Relay` takes the turn of the loop apart accordingly, and with nothing in between the parts make up
the turn (`Relay.parts_eq_turn`).  What an indicator hears is the value that the set of indicators
was last told, when it is bound, and then the value of every round (`Relay.calls_eq`).  The values
of the rounds alternate (`Relay.isChain_rounds`), so that no indicator misses a change, hears of it
twice, or is left with the wrong value (`Relay.indicators_follow_network`).
-/
import LinkWatch.Proofs.Watchdog.Adoption
import Mathlib.Data.List.Chain

namespace LinkWatch

/-- Whether the event loop learns from a signal that the network came or went, when it was there or
not before. -/
def Happening.changes (online : Bool) : Happening → Bool
  | .turn _ (.signal b) => b != online
  | _ => false

/-- The indicator that is bound. -/
def Happening.binding? : Happening → Option Indicator
  | .bind i => some i
  | _ => none

namespace Core

variable {m : Moment} {c : Core} {i : Incident} {online : Bool}

/-- What the loop does when it takes note that the network came or went, before it tells the
indicators. -/
def takeNote (m : Moment) (online : Bool) (c : Core) : Core × List Effect :=
  if online then
    let c := { c with status.onLine := true, timer := c.timer.start m.now }
    let (c, sent) := c.sendWorker m (.start c.status.intervalMs)
    (c, sent ++ [.log (.wentOnline c.status.intervalMs)])
  else
    let c := { c with status.onLine := false, timer := c.timer.stop }
    let (c, sent) := c.sendWorker m .stop
    ({ c with lastForegroundPing? := none, lastBackgroundPing? := none },
      sent ++ [.log .wentOffline])

/-- A signal that says something new is dealt with by taking note and telling the indicators. -/
lemma applySignal_eq_parts (h : online ≠ c.status.onLine) :
    c.applySignal m online =
      (((c.takeNote m online).1.tellIndicators online).1,
        (c.takeNote m online).2 ++ ((c.takeNote m online).1.tellIndicators online).2) := by
  rw [applySignal, if_neg h]
  cases online with
  | true => simp [takeNote, goOnline, tellIndicators]
  | false => simp [takeNote, goOffline, tellIndicators]

/-- Taking note leaves the indicators alone. -/
lemma takeNote_eq (m : Moment) (online : Bool) (c : Core) :
    (c.takeNote m online).1.indicators = c.indicators ∧
      (c.takeNote m online).1.status.onLine = online ∧
      (c.takeNote m online).1.emitting = c.emitting ∧
      (c.takeNote m online).2.filterMap Effect.notice? = [] := by
  cases online <;> simp [takeNote, sendWorker_fst, notices_sendWorker, Effect.notice?]

/-- While the network stays as it is, nobody is told anything. -/
lemma indicators_step (h : (c.regime.after c.config i).onLine = c.status.onLine) :
    (c.step m i).1.indicators = c.indicators ∧ (c.step m i).1.status.onLine = c.status.onLine ∧
      (c.step m i).2.filterMap Effect.notice? = [] := by
  refine ⟨?_, (congrArg Regime.onLine (regime_step m c i)).trans h,
    (notices_step m c i).trans (if_pos h)⟩
  obtain ⟨c', hc', ho⟩ := step_outcome m c i
  rw [hc', indicators_shown]
  generalize (c.step m i).2.filter Effect.isAct = acts at ho
  cases ho with
  | changed =>
    exact congrArg (fun b => ({ c.indicators with online := b } : Indicators)) (if_pos h)
  | begun ht => rw [beginPing_fst ht]
  | answered result => cases result <;> rfl
  | _ => rfl

/-- Nothing but a signal tells whether the network is there. -/
lemma onLine_after (hi : ∀ b, i = .signal b → b = c.status.onLine) :
    (c.regime.after c.config i).onLine = c.status.onLine := by
  cases i.kind with
  | signal b => exact hi b rfl
  | request hn => rw [Regime.after_of_requestedMs? _ _ hn]; rfl
  | other hn hs => rw [Regime.after_of_other _ _ hn hs]; rfl

end Core

/-- How far the event loop has come with a change of the network. -/
inductive Progress where
  /-- It is not dealing with one. -/
  | idle
  /-- It has taken note of it, and is about to tell the indicators. -/
  | noted (online : Bool)
  /-- It has told the indicators, and is about to show the snapshot. -/
  | told
deriving DecidableEq

/-- A watchdog whose event loop may be in the middle of dealing with a change of the network. -/
structure Relay where
  watchdog : Watchdog
  progress : Progress := .idle

namespace Relay

/-- Something that happens in one piece, while nothing else does. -/
inductive Piece where
  /-- Anything that happens to the watchdog, but for a signal that says something new. -/
  | whole (h : Happening)
  /-- The event loop takes note that the network came or went. -/
  | change (m : Moment) (online : Bool)
  /-- It tells the indicators. -/
  | round (online : Bool)
  /-- It shows the snapshot. -/
  | conclude

namespace Piece

/-- The change of the network that is taken note of. -/
def change? : Piece → Option Bool
  | .change _ online => some online
  | _ => none

/-- The value that the indicators are told in a round. -/
def round? : Piece → Option Bool
  | .round online => some online
  | _ => none

/-- The indicator that is bound. -/
def binding? : Piece → Option Indicator
  | .whole h => h.binding?
  | _ => none

/-- The changes of the network in the course of pieces. -/
def changes (ps : List Piece) : List Bool := ps.filterMap change?

/-- The values that the indicators are told. -/
def rounds (ps : List Piece) : List Bool := ps.filterMap round?

/-- The indicators that are bound, in this order. -/
def bindings (ps : List Piece) : List Indicator := ps.filterMap binding?

end Piece

open Piece (changes rounds bindings)

/-- A watchdog whose event loop was just started. -/
def launch (config : HeartbeatConfig) (workerHeld : Bool) : Relay :=
  { watchdog := .launch config workerHeld }

/-- Whether the network is there. -/
def onLine (s : Relay) : Bool := s.watchdog.core.status.onLine

/-- The value that the indicators were last told. -/
def flag (s : Relay) : Bool := s.watchdog.core.indicators.online

/-- The indicators that are bound. -/
def bound (s : Relay) : List Indicator := s.watchdog.core.indicators.bound

/-- What comes of a piece, and what is done about it. -/
def perform (s : Relay) : Piece → Relay × List Effect
  | .whole h => ({ s with watchdog := (s.watchdog.happen h).1 }, (s.watchdog.happen h).2)
  | .change m online =>
    let (core, effects) := s.watchdog.core.takeNote m online
    ({ watchdog := { s.watchdog with core }, progress := .noted online }, effects)
  | .round online =>
    let (core, effects) := s.watchdog.core.tellIndicators online
    ({ watchdog := { s.watchdog with core }, progress := .told }, effects)
  | .conclude =>
    let (core, effects) := s.watchdog.core.publish
    ({ watchdog := { s.watchdog with core }, progress := .idle }, effects)

/-- Whether a piece can happen: an indicator can be bound at any time, and the event loop does one
thing after the other. -/
def admits (s : Relay) : Piece → Bool
  | .whole (.bind _) => true
  | .whole h =>
    decide (s.progress = .idle) && s.watchdog.allows h && !h.changes s.onLine
  | .change m online =>
    decide (s.progress = .idle) && s.watchdog.allows (.turn m (.signal online)) &&
      online != s.onLine
  | .round online => decide (s.progress = .noted online)
  | .conclude => decide (s.progress = .told)

/-- The state after all the pieces of a list. -/
def after (s : Relay) (ps : List Piece) : Relay := ps.foldl (fun s p => (s.perform p).1) s

/-- Whether all the pieces of a list can happen, one after the other. -/
def admitted (s : Relay) : List Piece → Bool
  | [] => true
  | p :: ps => s.admits p && (s.perform p).1.admitted ps

/-- What is done in the course of pieces. -/
def effects (s : Relay) : List Piece → List Effect
  | [] => []
  | p :: ps => (s.perform p).2 ++ (s.perform p).1.effects ps

/-- What the indicators are told in the course of pieces. -/
def notices (s : Relay) (ps : List Piece) : List Notice := (s.effects ps).filterMap Effect.notice?

/-- What is heard in a piece by the indicator that was bound as number `k`: when it is bound, the
notice of its binding, and else the notice at its place in a round. -/
def hears (k : ℕ) (s : Relay) (p : Piece) : List Bool :=
  let told := (s.perform p).2.filterMap Effect.notice?
  match p.binding? with
  | some _ => if s.bound.length = k then told.map Notice.online else []
  | none => (told[k]?.map Notice.online).toList

/-- All that is heard by the indicator that was bound as number `k`. -/
def calls (k : ℕ) (s : Relay) : List Piece → List Bool
  | [] => []
  | p :: ps => s.hears k p ++ calls k (s.perform p).1 ps

/-- The change of the network that the indicators are still to be told. -/
def pending (s : Relay) : List Bool :=
  match s.progress with
  | .noted online => [online]
  | _ => []

variable {config : HeartbeatConfig} {workerHeld : Bool} {s : Relay} {p : Piece}
  {ps xs ys : List Piece} {m : Moment} {online : Bool} {k : ℕ} {i : Indicator}

/-! ## Runs -/

@[simp] lemma after_append (s : Relay) (xs ys : List Piece) :
    s.after (xs ++ ys) = (s.after xs).after ys :=
  List.foldl_append

lemma admitted_cons : s.admitted (p :: ps) ↔ s.admits p ∧ (s.perform p).1.admitted ps := by
  simp [admitted]

lemma admitted_append :
    s.admitted (xs ++ ys) ↔ s.admitted xs ∧ (s.after xs).admitted ys := by
  induction xs generalizing s with
  | nil => simp [admitted, after]
  | cons p xs ih =>
    rw [List.cons_append, admitted_cons, admitted_cons, ih, and_assoc]
    rfl

lemma calls_append (k : ℕ) (s : Relay) (xs ys : List Piece) :
    s.calls k (xs ++ ys) = s.calls k xs ++ (s.after xs).calls k ys := by
  induction xs generalizing s with
  | nil => rfl
  | cons p xs ih =>
    rw [List.cons_append, calls, ih, calls, List.append_assoc]
    rfl

lemma notices_cons (s : Relay) (p : Piece) (ps : List Piece) :
    s.notices (p :: ps) =
      (s.perform p).2.filterMap Effect.notice? ++ (s.perform p).1.notices ps :=
  List.filterMap_append

lemma notices_append (s : Relay) (xs ys : List Piece) :
    s.notices (xs ++ ys) = s.notices xs ++ (s.after xs).notices ys := by
  induction xs generalizing s with
  | nil => rfl
  | cons p xs ih =>
    rw [List.cons_append, notices_cons, notices_cons, ih, List.append_assoc]
    rfl

/-! ## The parts of a turn -/

/-- **With nothing in between, the parts make up a turn of the event loop.** -/
lemma parts_eq_turn (ha : s.admits (.change m online)) :
    let h := Happening.turn m (.signal online)
    let parts := [Piece.change m online, .round online, .conclude]
    s.admitted parts ∧ s.after parts = { s with watchdog := (s.watchdog.happen h).1 } ∧
      s.effects parts = (s.watchdog.happen h).2 := by
  obtain ⟨w, progress⟩ := s
  simp only [admits, Bool.and_eq_true, decide_eq_true_eq, bne_iff_ne] at ha
  obtain ⟨⟨rfl, hallowed⟩, hne⟩ := ha
  have hidle : w.core.emitting = false :=
    (Bool.not_eq_true' _).mp (Watchdog.allows_turn_iff.mp hallowed).2
  have hstep : w.core.step m (.signal online) =
      (((w.core.takeNote m online).1.tellIndicators online).1.publish.1,
        (w.core.takeNote m online).2 ++ ((w.core.takeNote m online).1.tellIndicators online).2 ++
          ((w.core.takeNote m online).1.tellIndicators online).1.publish.2) := by
    have hemitting : ((w.core.takeNote m online).1.tellIndicators online).1.emitting = false :=
      (Core.takeNote_eq m online w.core).2.2.1.trans hidle
    rw [Core.step_eq, Core.handle, Core.applySignal_eq_parts hne, hemitting]
    rfl
  intro h parts
  refine ⟨?_, ?_, ?_⟩
  · simpa [parts, admitted, admits, perform, hallowed, onLine] using hne
  · show Relay.mk { w with core := _ } .idle = Relay.mk { w with core := _ } .idle
    rw [hstep]
    rfl
  · show _ ++ (_ ++ (_ ++ [])) = (w.core.step m (.signal online)).2
    rw [hstep, List.append_nil, List.append_assoc]
    rfl

/-! ## What a piece does -/

/-- What a piece does to the indicators and to the network, and what the indicators are told. -/
structure Does (s : Relay) (p : Piece) (s' : Relay) (told : List Notice) : Prop where
  bound : s'.bound = s.bound ++ p.binding?.toList
  flag : s'.flag = p.round?.getD s.flag
  onLine : s'.onLine = p.change?.getD s.onLine
  /-- Who is bound is told the value at once, and in a round all are told, in the order in which
  they were bound. -/
  told : told = p.binding?.toList.map (⟨·, s.flag⟩) ++
    p.round?.toList.flatMap fun online => s.bound.map (⟨·, online⟩)

/-- What happens to the watchdog in one piece changes neither the network nor the indicators, except
that one of them is bound. -/
lemma does_whole {h : Happening} (ha : s.admits (.whole h)) :
    Does s (.whole h) (s.perform (.whole h)).1
      ((s.perform (.whole h)).2.filterMap Effect.notice?) := by
  cases h with
  | bind i => exact ⟨rfl, rfl, rfl, rfl⟩
  | finish m =>
    have hcore : (s.perform (.whole (.finish m))).1.watchdog.core =
        (s.watchdog.core.finish m).1 := rfl
    rw [Core.finish_fst] at hcore
    refine ⟨?_, ?_, ?_, Core.notices_finish m s.watchdog.core⟩
    · rw [bound, hcore]
      exact (List.append_nil _).symm
    · rw [flag, hcore]
      rfl
    · rw [onLine, hcore]
      rfl
  | turn m i =>
    have hstays : ∀ b, i = .signal b → b = s.watchdog.core.status.onLine := by
      rintro b rfl
      simpa [admits, Happening.changes, onLine] using (Bool.and_eq_true_iff.mp ha).2
    obtain ⟨hindicators, honline, htold⟩ :=
      Core.indicators_step (m := m) (Core.onLine_after hstays)
    refine ⟨?_, congrArg Indicators.online hindicators, honline, htold⟩
    exact (congrArg Indicators.bound hindicators).trans (List.append_nil _).symm

lemma does (ha : s.admits p) :
    Does s p (s.perform p).1 ((s.perform p).2.filterMap Effect.notice?) := by
  cases p with
  | whole h => exact does_whole ha
  | change m online =>
    obtain ⟨hindicators, honline, -, htold⟩ := Core.takeNote_eq m online s.watchdog.core
    refine ⟨?_, congrArg Indicators.online hindicators, honline, htold⟩
    exact (congrArg Indicators.bound hindicators).trans (List.append_nil _).symm
  | round online =>
    refine ⟨(List.append_nil _).symm, rfl, rfl, ?_⟩
    exact (Core.notices_tellIndicators s.watchdog.core online).trans (List.append_nil _).symm
  | conclude => exact ⟨(List.append_nil _).symm, rfl, rfl, Core.notices_publish s.watchdog.core⟩

/-! ## Rounds -/

/-- The indicators were told what is known of the network, unless the loop has just taken note of a
change: then they were told the opposite. -/
def Sound (s : Relay) : Prop :=
  match s.progress with
  | .noted online => s.onLine = online ∧ s.flag = !online
  | _ => s.flag = s.onLine

lemma sound_launch (config : HeartbeatConfig) (workerHeld : Bool) :
    (launch config workerHeld).Sound := rfl

lemma progress_eq_of_admits_change (ha : s.admits (.change m online)) :
    s.progress = .idle ∧ s.onLine = !online := by
  simp only [admits, Bool.and_eq_true, decide_eq_true_eq, bne_iff_ne] at ha
  obtain ⟨⟨hidle, -⟩, hne⟩ := ha
  refine ⟨hidle, ?_⟩
  cases online <;> simpa using hne.symm

lemma progress_eq_of_admits_round (ha : s.admits (.round online)) :
    s.progress = .noted online :=
  of_decide_eq_true ha

lemma Sound.perform (hs : s.Sound) (ha : s.admits p) : (s.perform p).1.Sound := by
  have hd := does ha
  cases p with
  | whole h =>
    -- neither the network nor what was last told has changed
    have hflag : (s.perform (.whole h)).1.flag = s.flag := hd.flag
    have honline : (s.perform (.whole h)).1.onLine = s.onLine := hd.onLine
    rw [Sound, hflag, honline]
    exact hs
  | change m online =>
    obtain ⟨hidle, hoff⟩ := progress_eq_of_admits_change ha
    rw [Sound, hidle] at hs
    exact ⟨hd.onLine, hd.flag.trans (hs.trans hoff)⟩
  | round online =>
    rw [Sound, progress_eq_of_admits_round ha] at hs
    exact hd.flag.trans (hs.1.symm.trans hd.onLine.symm)
  | conclude =>
    have htold : s.progress = .told := of_decide_eq_true ha
    rw [Sound, htold] at hs
    exact hs

lemma Sound.after (hs : s.Sound) (ha : s.admitted ps) : (s.after ps).Sound := by
  induction ps generalizing s with
  | nil => exact hs
  | cons p ps ih =>
    obtain ⟨hp, hps⟩ := admitted_cons.mp ha
    exact ih (hs.perform hp) hps

/-- **The values of the rounds alternate**, beginning with another one than the indicators were told
before, and the last is the one that they were told in the end. -/
lemma isChain_rounds (hs : s.Sound) (ha : s.admitted ps) :
    (s.flag :: rounds ps).IsChain (· ≠ ·) ∧
      (s.flag :: rounds ps).getLast? = some (s.after ps).flag := by
  induction ps generalizing s with
  | nil => exact ⟨List.isChain_singleton _, rfl⟩
  | cons p ps ih =>
    obtain ⟨hp, hps⟩ := admitted_cons.mp ha
    obtain ⟨hchain, hlast⟩ := ih (hs.perform hp) hps
    rw [(does hp).flag] at hchain hlast
    cases hround : p.round? with
    | none =>
      rw [hround, Option.getD_none] at hchain hlast
      rw [rounds, List.filterMap_cons_none hround]
      exact ⟨hchain, hlast⟩
    | some online =>
      -- a round: the indicators were told the opposite before
      obtain rfl : p = .round online := by
        cases p with
        | round b => exact congrArg _ (Option.some.inj hround)
        | _ => cases hround
      rw [Sound, progress_eq_of_admits_round hp] at hs
      rw [rounds, List.filterMap_cons_some hround]
      refine ⟨List.isChain_cons_cons.mpr ⟨?_, hchain⟩, ?_⟩
      · rw [hs.2]
        exact fun heq => (Bool.not_eq_self online).mp heq
      · rw [List.getLast?_cons_cons]
        exact hlast

/-- Every change of the network that is taken note of has its round, in this order, except for the
one of which the indicators are still to be told. -/
lemma changes_eq (ha : s.admitted ps) :
    s.pending ++ changes ps = rounds ps ++ (s.after ps).pending := by
  induction ps generalizing s with
  | nil => exact List.append_nil _
  | cons p ps ih =>
    obtain ⟨hp, hps⟩ := admitted_cons.mp ha
    have hrest := ih hps
    cases p with
    | whole h =>
      have hsame : (s.perform (.whole h)).1.pending = s.pending := rfl
      rw [hsame] at hrest
      exact hrest
    | change m online =>
      rw [show s.pending = [] by rw [pending, (progress_eq_of_admits_change hp).1]]
      exact hrest
    | round online =>
      rw [show s.pending = [online] by rw [pending, progress_eq_of_admits_round hp]]
      exact congrArg (online :: ·) hrest
    | conclude =>
      have htold : s.progress = .told := of_decide_eq_true hp
      rw [show s.pending = [] by rw [pending, htold]]
      exact hrest

/-! ## What an indicator hears -/

lemma bindings_cons (p : Piece) (ps : List Piece) :
    bindings (p :: ps) = p.binding?.toList ++ bindings ps := by
  rw [bindings, List.filterMap_cons]
  cases p.binding? <;> rfl

lemma bound_after (ha : s.admitted ps) : (s.after ps).bound = s.bound ++ bindings ps := by
  induction ps generalizing s with
  | nil => exact (List.append_nil _).symm
  | cons p ps ih =>
    obtain ⟨hp, hps⟩ := admitted_cons.mp ha
    refine (ih hps).trans ?_
    rw [(does hp).bound, List.append_assoc, bindings_cons]

lemma round?_of_binding? (hb : p.binding? = some i) : p.round? = none := by
  cases p with
  | whole h => rfl
  | _ => cases hb

/-- When it is bound, an indicator hears the value that all were last told. -/
lemma hears_of_eq (ha : s.admits p) (hb : p.binding? = some i) (hk : s.bound.length = k) :
    s.hears k p = [s.flag] := by
  simp only [hears, (does ha).told, hb, round?_of_binding? hb, if_pos hk]
  rfl

/-- What is bound hears the value of a round. -/
lemma hears_of_lt (ha : s.admits p) (hk : k < s.bound.length) :
    s.hears k p = p.round?.toList := by
  cases hb : p.binding? with
  | some i =>
    rw [round?_of_binding? hb]
    simp only [hears, hb, if_neg (Nat.ne_of_gt hk)]
    rfl
  | none =>
    simp only [hears, (does ha).told, hb]
    cases p.round? <;> simp [hk]

/-- What is not bound and is not being bound hears nothing. -/
lemma hears_of_le (ha : s.admits p) (hk : s.bound.length ≤ k)
    (hb : p.binding?.isSome → s.bound.length ≠ k) : s.hears k p = [] := by
  cases hbinding : p.binding? with
  | some i =>
    have hne : s.bound.length ≠ k := hb (by rw [hbinding]; rfl)
    simp only [hears, hbinding, if_neg hne]
  | none =>
    simp only [hears, (does ha).told, hbinding]
    cases p.round? <;> simp [hk]

/-- Before it is bound, an indicator hears nothing. -/
lemma calls_of_length_le (ha : s.admitted ps) (hk : (s.bound ++ bindings ps).length ≤ k) :
    s.calls k ps = [] := by
  induction ps generalizing s with
  | nil => rfl
  | cons p ps ih =>
    obtain ⟨hp, hps⟩ := admitted_cons.mp ha
    rw [bindings_cons, ← List.append_assoc, ← (does hp).bound] at hk
    rw [calls, ih hps hk, List.append_nil]
    rw [(does hp).bound, List.length_append, List.length_append] at hk
    refine hears_of_le hp (by omega) fun hsome => ?_
    rw [Option.length_toList, if_pos hsome] at hk
    omega

/-- Once it is bound, an indicator hears the value of every round. -/
lemma calls_of_lt (ha : s.admitted ps) (hk : k < s.bound.length) :
    s.calls k ps = rounds ps := by
  induction ps generalizing s with
  | nil => rfl
  | cons p ps ih =>
    obtain ⟨hp, hps⟩ := admitted_cons.mp ha
    have hk' : k < (s.perform p).1.bound.length := by
      rw [(does hp).bound, List.length_append]
      omega
    rw [calls, ih hps hk', hears_of_lt hp hk, rounds, rounds, List.filterMap_cons]
    cases p.round? <;> rfl

/-- **An indicator hears the value that all were last told, when it is bound, and then the value of
every round.** -/
lemma calls_eq (ha : s.admitted (xs ++ .whole (.bind i) :: ys)) :
    s.calls (s.bound ++ bindings xs).length (xs ++ .whole (.bind i) :: ys) =
      (s.after xs).flag :: rounds ys := by
  obtain ⟨hx, hrest⟩ := admitted_append.mp ha
  obtain ⟨hbind, hy⟩ := admitted_cons.mp hrest
  have hbound := bound_after hx
  have hlt : (s.bound ++ bindings xs).length <
      ((s.after xs).perform (.whole (.bind i))).1.bound.length := by
    rw [(does hbind).bound, hbound, @List.length_append _ _ (Option.toList _)]
    exact Nat.lt_succ_self _
  rw [calls_append, calls_of_length_le hx (Nat.le_refl _), calls,
    hears_of_eq hbind rfl (congrArg List.length hbound), calls_of_lt hy hlt]
  rfl

/-! ## What is told to an indicator by its name -/

/-- All that is told to an indicator. -/
def toldTo (i : Indicator) (ns : List Notice) : List Bool :=
  (ns.filter (·.indicator = i)).map Notice.online

lemma toldTo_append (i : Indicator) (xs ys : List Notice) :
    toldTo i (xs ++ ys) = toldTo i xs ++ toldTo i ys := by
  simp [toldTo]

/-- In a round an indicator is told the value as often as it is bound. -/
lemma toldTo_round (i : Indicator) (bs : List Indicator) (online : Bool) :
    toldTo i (bs.map (⟨·, online⟩)) = List.replicate (bs.count i) online := by
  induction bs with
  | nil => rfl
  | cons b bs ih =>
    rw [List.map_cons, ← List.singleton_append, toldTo_append, ih]
    by_cases hb : b = i
    · subst hb
      simp [toldTo, List.replicate_succ]
    · simp [toldTo, hb]

lemma toldTo_piece (ha : s.admits p) (i : Indicator) :
    toldTo i ((s.perform p).2.filterMap Effect.notice?) =
      (if p.binding? = some i then [s.flag] else []) ++
        p.round?.toList.flatMap fun online => List.replicate (s.bound.count i) online := by
  rw [(does ha).told, toldTo_append]
  congr 1
  · cases p.binding? with
    | none => rfl
    | some j =>
      by_cases hj : j = i
      · subst hj
        simp [toldTo]
      · simp [toldTo, hj]
  · cases p.round? with
    | none => rfl
    | some online => simp [toldTo_round]

/-- What is never bound is told nothing. -/
lemma toldTo_of_not_mem (ha : s.admitted ps) (hi : i ∉ s.bound ++ bindings ps) :
    toldTo i (s.notices ps) = [] := by
  induction ps generalizing s with
  | nil => rfl
  | cons p ps ih =>
    obtain ⟨hp, hps⟩ := admitted_cons.mp ha
    rw [bindings_cons, ← List.append_assoc, ← (does hp).bound] at hi
    rw [notices_cons, toldTo_append, ih hps hi, toldTo_piece hp, List.append_nil]
    rw [(does hp).bound, List.mem_append, List.mem_append, not_or, not_or] at hi
    obtain ⟨⟨hbound, hbinding⟩, -⟩ := hi
    rw [if_neg (by simpa using hbinding), List.count_eq_zero.mpr hbound]
    simp

/-- What is bound once, and not again, is told the value of every round. -/
lemma toldTo_of_count (ha : s.admitted ps) (hone : s.bound.count i = 1)
    (hi : i ∉ bindings ps) : toldTo i (s.notices ps) = rounds ps := by
  induction ps generalizing s with
  | nil => rfl
  | cons p ps ih =>
    obtain ⟨hp, hps⟩ := admitted_cons.mp ha
    rw [bindings_cons, List.mem_append, not_or] at hi
    obtain ⟨hbinding, hrest⟩ := hi
    have hone' : (s.perform p).1.bound.count i = 1 := by
      rw [(does hp).bound, List.count_append, hone, List.count_eq_zero.mpr hbinding]
    rw [notices_cons, toldTo_append, ih hps hone' hrest, toldTo_piece hp, hone,
      if_neg (by simpa using hbinding), rounds, rounds, List.filterMap_cons]
    cases p.round? <;> rfl

/-- An indicator that is bound only once is told by its name what it hears. -/
lemma toldTo_eq (ha : s.admitted (xs ++ .whole (.bind i) :: ys))
    (hx : i ∉ s.bound ++ bindings xs) (hy : i ∉ bindings ys) :
    toldTo i (s.notices (xs ++ .whole (.bind i) :: ys)) = (s.after xs).flag :: rounds ys := by
  obtain ⟨hax, hrest⟩ := admitted_append.mp ha
  obtain ⟨hbind, hay⟩ := admitted_cons.mp hrest
  have hone : ((s.after xs).perform (.whole (.bind i))).1.bound.count i = 1 := by
    rw [(does hbind).bound, bound_after hax, List.count_append, List.count_eq_zero.mpr hx]
    simp [Piece.binding?, Happening.binding?]
  rw [notices_append, toldTo_append, toldTo_of_not_mem hax hx, notices_cons, toldTo_append,
    toldTo_of_count hay hone hy, toldTo_piece hbind,
    if_pos (show (Piece.whole (.bind i)).binding? = some i from rfl)]
  rfl

/-! ## The main result -/

/-- **Indicators never miss, repeat or invert a change of the network.**  Take any run in which the
event loop deals with whatever it likes, and in which indicators are bound at any time: while the
loop deals with something else, when it has taken note of a change and not yet told anybody, and
when it has told the indicators and not yet shown the snapshot.  Then

* every change that is taken note of has exactly one round, in the order of the changes, except for
  one of which the indicators are still to be told;
* in a round just those are told that were bound before, each once and in the order in which they
  were bound;
* an indicator hears the value that all were last told, at the moment when it is bound, and then the
  value of every round that comes after.  So it hears at least one value; two that it hears one
  after the other are different; and unless it is still to be told of a change, the last that it
  heard is whether the network is there.  If it is bound only once, this is all that is ever told
  to it. -/
theorem indicators_follow_network (admitted : (launch config workerHeld).admitted ps) :
    let s := launch config workerHeld
    changes ps = rounds ps ++ (s.after ps).pending ∧
    (∀ xs online ys, ps = xs ++ .round online :: ys →
      ((s.after xs).perform (.round online)).2.filterMap Effect.notice? =
        (bindings xs).map (⟨·, online⟩)) ∧
    ∀ xs i ys, ps = xs ++ .whole (.bind i) :: ys →
      let calls := s.calls (bindings xs).length ps
      calls = (s.after xs).flag :: rounds ys ∧ calls.IsChain (· ≠ ·) ∧
      ((s.after ps).pending = [] → calls.getLast? = some (s.after ps).onLine) ∧
      (i ∉ bindings xs → i ∉ bindings ys → toldTo i (s.notices ps) = calls) := by
  intro s
  have hs := sound_launch config workerHeld
  refine ⟨changes_eq admitted, ?_, ?_⟩
  · rintro xs online ys rfl
    obtain ⟨hx, hrest⟩ := admitted_append.mp admitted
    have htold := (does (admitted_cons.mp hrest).1).told
    rw [bound_after hx] at htold
    exact htold.trans (List.append_nil _)
  · rintro xs i ys rfl calls
    obtain ⟨hx, hrest⟩ := admitted_append.mp admitted
    obtain ⟨hbind, hy⟩ := admitted_cons.mp hrest
    have hcalls : calls = (s.after xs).flag :: rounds ys := calls_eq admitted
    obtain ⟨hchain, hlast⟩ := isChain_rounds (hs.after hx) hrest
    have hrounds : rounds (.whole (.bind i) :: ys) = rounds ys := rfl
    rw [hrounds, ← hcalls] at hchain hlast
    refine ⟨hcalls, hchain, fun hnone => ?_, fun hix hiy => ?_⟩
    · rw [hlast, after_append]
      have hend := (hs.after hx).after hrest
      rw [after_append] at hnone
      generalize (s.after xs).after _ = t at hend hnone ⊢
      rw [Sound] at hend
      rw [pending] at hnone
      split at hend
      next hnoted =>
        rw [hnoted] at hnone
        cases hnone
      next => rw [hend]
    · rw [hcalls]
      exact toldTo_eq admitted hix hiy

/-- The network comes and goes.  One indicator is bound before; another one when the loop has taken
note that the network came, but has not told anybody; and a third one when the indicators were told
that the network went, but the snapshot does not show it yet. -/
def boundInBetween : List Piece :=
  [.whole (.bind (.named "lamp")),
    .change ⟨0, .epoch, true⟩ true,
    .whole (.bind (.named "flag")),
    .round true,
    .conclude,
    .change ⟨millis 1000, .epoch, true⟩ false,
    .round false,
    .whole (.bind .logger)]

theorem flag_follows_network :
    let s := launch {} true
    s.admitted boundInBetween = true ∧ s.calls 1 boundInBetween = [false, true, false] ∧
      toldTo (.named "flag") (s.notices boundInBetween) = [false, true, false] ∧
      (s.after boundInBetween).onLine = false := by
  intro s
  have ha : s.admitted boundInBetween = true := rfl
  obtain ⟨-, -, hbound⟩ := indicators_follow_network ha
  obtain ⟨hcalls, -, -, htold⟩ := hbound [.whole (.bind (.named "lamp")),
    .change ⟨0, .epoch, true⟩ true] (.named "flag") _ rfl
  exact ⟨ha, hcalls, (htold (by decide) (by decide)).trans hcalls, rfl⟩

end Relay

end LinkWatch
