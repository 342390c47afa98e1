/-
# Signals and requests

Signals about the network and requests for an interval are all that steers the watchdog, and what
they make of the state of the event loop can be said in one form: the regime that follows is
adopted, and malformed directives are counted (`Core.handle_fst_of_steers`).  The old regime
adopted once more changes nothing, so that the form fits also what leaves the regime as it is.

The same goes for what the indicators are told: a value whenever the network comes or goes, and
nothing else (`Core.notices_step`).
-/
import LinkWatch.Proofs.Watchdog.Life

namespace LinkWatch

namespace Incident

/-- Whether an incident is a signal about the network, or may be a request for an interval. -/
def steers : Incident → Bool
  | .signal _ | .inbound _ | .setInterval _ => true
  | _ => false

/-- The number of malformed directives in an incident. -/
def rejections : Incident → ℕ
  | .inbound e =>
    match Directive.ofEvent? e with
    | some (.error _) => 1
    | _ => 0
  | _ => 0

/-- What asks for an interval is no malformed directive. -/
lemma rejections_of_requestedMs? {i : Incident} {n : UInt64} (h : i.requestedMs? = some n) :
    i.rejections = 0 := by
  cases i with
  | inbound e =>
    rw [requestedMs?, Event.requestedMs?] at h
    rw [rejections]
    split at h
    next heq => rw [heq]
    next => cases h
  | setInterval n => rfl
  | _ => cases h

end Incident

/-- The notice that an effect gives, if it gives one. -/
def Effect.notice? : Effect → Option Notice
  | .notice n => some n
  | _ => none

namespace Core

/-- Counts malformed directives. -/
def reject (n : ℕ) (c : Core) : Core :=
  { c with status.rejectedDirectives := c.status.rejectedDirectives + n }

variable (m : Moment) (c : Core)

/-! ## The state afterwards -/

/-- The regime in force, adopted once more, changes nothing. -/
@[simp] lemma adopt_regime : c.adopt m c.regime = c := by
  simp [adopt, regime]

lemma reject_zero : c.reject 0 = c := rfl

variable {c} in
/-- **What steers the watchdog makes it adopt the regime that follows.** -/
lemma handle_fst_of_steers {i : Incident} (h : i.steers) :
    (c.handle m i).1 = (c.adopt m (c.regime.after c.config i)).reject i.rejections := by
  cases i.kind with
  | signal online =>
    have ho := outcome m c (.signal online)
    generalize (c.handle m (.signal online)).1 = c', (c.handle m (.signal online)).2.filter _ = acts
      at ho ⊢
    cases ho with
    | kept hr => rw [hr, adopt_regime]; rfl
    | changed => rfl
  | @request i n hn =>
    rw [Incident.rejections_of_requestedMs? hn, reject_zero]
    have ho := outcome m c i
    generalize (c.handle m i).1 = c', (c.handle m i).2.filter _ = acts at ho ⊢
    cases ho with
    | kept hr => rw [hr, adopt_regime]
    | changed => rfl
    | rejected hnone => rw [hnone] at hn; cases hn
    | _ => cases hn
  | @other i hn hs =>
    rw [Regime.after_of_other _ _ hn hs, adopt_regime]
    cases i with
    | signal online => exact absurd rfl (hs online)
    | setInterval n => cases hn
    | inbound e =>
      rw [handle, handleEvent, Incident.rejections]
      rw [Incident.requestedMs?, Event.requestedMs?] at hn
      cases hd : Directive.ofEvent? e with
      | none => rfl
      | some d =>
        rw [hd] at hn
        cases d with
        | error fault => rfl
        | ok d => cases hn
    | _ => cases h

variable {m c} in
/-- What steers the watchdog has nothing to do with the heartbeat that is under way. -/
lemma emitting_step_of_steers {i : Incident} (hi : i.steers) :
    (c.step m i).1.emitting = c.emitting := by
  rw [step_fst, emitting_shown, handle_fst_of_steers m hi]
  rfl

variable {m c} in
/-- Between heartbeats the loop can deal with whatever steers it. -/
lemma awaits_of_steers {i : Incident} (hi : i.steers) : c.awaits m i = !c.emitting := by
  cases i with
  | signal | inbound | setInterval => rfl
  | _ => cases hi

/-! ## What the indicators are told -/

/-- What the indicators are told about a new regime. -/
def noticesOf (r : Regime) : List Notice :=
  if r.onLine = c.status.onLine then [] else (c.indicators.tell r.onLine).1

lemma notices_sendWorker (k : ClockCommand) :
    (c.sendWorker m k).2.filterMap Effect.notice? = [] := by
  rw [sendWorker]
  split
  · split <;> rfl
  · rfl

lemma notices_tellIndicators (online : Bool) :
    (c.tellIndicators online).2.filterMap Effect.notice? = (c.indicators.tell online).1 := by
  simp only [tellIndicators, List.filterMap_map]
  exact List.filterMap_some

lemma notices_publish : c.publish.2.filterMap Effect.notice? = [] := by
  dsimp only [publish]
  split <;> rfl

lemma notices_changeInterval (n : UInt64) :
    (c.changeInterval m n).2.filterMap Effect.notice? = [] := by
  rw [changeInterval]
  split
  · rfl
  · dsimp only
    rw [List.filterMap_append]
    split
    · rw [notices_sendWorker]
      rfl
    · rfl

lemma notices_applyInterval (n : UInt64) :
    (c.applyInterval m n).2.filterMap Effect.notice? = [] := by
  have h := notices_changeInterval m c (c.config.clamp n)
  simp only [applyInterval, List.filterMap_append, h, List.append_nil]
  split <;> rfl

lemma notices_goOnline :
    (c.goOnline m).2.filterMap Effect.notice? = (c.indicators.tell true).1 := by
  simp only [goOnline, List.filterMap_append, notices_sendWorker, List.nil_append]
  rw [List.filterMap_cons_none rfl, notices_tellIndicators, sendWorker_fst]

lemma notices_goOffline :
    (c.goOffline m).2.filterMap Effect.notice? = (c.indicators.tell false).1 := by
  simp only [goOffline, List.filterMap_append, notices_sendWorker, List.nil_append]
  rw [List.filterMap_cons_none rfl, notices_tellIndicators, sendWorker_fst]

/-- A signal is passed on to the indicators if it says something new. -/
lemma notices_applySignal (online : Bool) :
    (c.applySignal m online).2.filterMap Effect.notice? =
      c.noticesOf ⟨online, c.status.intervalMs⟩ := by
  rw [applySignal, noticesOf]
  split
  · rfl
  · cases online with
    | true => exact notices_goOnline m c
    | false => exact notices_goOffline m c

lemma notices_handle (i : Incident) :
    (c.handle m i).2.filterMap Effect.notice? = c.noticesOf (c.regime.after c.config i) := by
  have hkept : ∀ n, c.noticesOf ⟨c.status.onLine, n⟩ = [] := fun n => if_pos rfl
  cases i.kind with
  | signal online => exact notices_applySignal m c online
  | request hn =>
    rw [Regime.after_of_requestedMs? _ _ hn, handle_of_requestedMs? m c hn, notices_applyInterval]
    exact (hkept _).symm
  | @other i hn hs =>
    rw [Regime.after_of_other _ _ hn hs, show c.noticesOf c.regime = [] from hkept _]
    cases i with
    | signal online => exact absurd rfl (hs online)
    | setInterval n => cases hn
    | inbound e =>
      rcases handleEvent_of_requestedMs?_none m c hn with hk | ⟨fault, hk⟩ <;>
        rw [handle, hk] <;> rfl
    | workerTick =>
      simp only [handle, backgroundTick]
      split
      · simp [Effect.notice?]
      · rfl
    | due =>
      simp only [handle, beginPing]
      split
      · rfl
      · simp only [List.filterMap_append]
        split <;> simp [Effect.notice?]
    | emitted result => cases result <;> rfl
    | _ => rfl

/-- **The indicators are told when the network comes or goes, and nothing else.** -/
lemma notices_step (i : Incident) :
    (c.step m i).2.filterMap Effect.notice? = c.noticesOf (c.regime.after c.config i) := by
  rw [← notices_handle, step_eq]
  split
  · rfl
  · rw [List.filterMap_append, notices_publish, List.append_nil]

lemma notices_finish : (c.finish m).2.filterMap Effect.notice? = [] := by
  rw [finish_snd, List.filterMap_append, List.filterMap_append, notices_publish,
    notices_sendWorker]
  rfl

end Core

/-! ## Along a life -/

/-- What the indicators are told in the course of a life. -/
def Watchdog.notices (w : Watchdog) : List Happening → List Notice
  | [] => []
  | h :: hs => (w.happen h).2.filterMap Effect.notice? ++ (w.happen h).1.notices hs

end LinkWatch
