/-
# A probe at work

A probe at work checks the network again and again, and sends a report when the result of a check
is news.  The reports wait in a queue with a few places, so that the probe may have to wait before
it can send the next one; and the receiver may be dropped at any time.  `Patrol` takes this apart
into steps, which make up a turn of `Probing` when nothing comes between them
(`Patrol.turn_alone`).

As long as there is a receiver, the reports are the results of the checks without those that
repeat the one before (`Patrol.Sound.reports`), as they are for `Probing` without any delay
(`Patrol.reduceOption_reports`).  When the receiver was dropped, the probe finds out only from a
report that it cannot send: a result that is news is the last one, but a probe whose results stay
the same goes on checking for ever (`Patrol.ends_with_news`).
-/
import LinkWatch.Network.Probe
import LinkWatch.Proofs.Steps
import Mathlib.Data.List.Destutter
import Mathlib.Data.List.Induction
import Mathlib.Data.List.ReduceOption
import Mathlib.Tactic.Common

namespace LinkWatch

/-- How far a probe at work has come. -/
inductive Probing.Stage where
  /-- It waits for the time of the next check. -/
  | resting
  | checking
  /-- The result of the check is news, and is still to be sent. -/
  | reporting (online : Bool)
  | ended
deriving DecidableEq

/-- The report that is still to be sent. -/
def Probing.Stage.pending? : Probing.Stage → Option Bool
  | .reporting online => some online
  | _ => none

/-- Whether another check may come. -/
def Probing.Stage.goesOn : Probing.Stage → Bool
  | .resting | .checking => true
  | _ => false

/-- A probe at work, and the queue of its reports. -/
structure Patrol where
  probing : Probing := {}
  stage : Probing.Stage := .resting
  /-- The reports that wait for the receiver. -/
  queue : List Bool := []
  /-- Whether there is a receiver. -/
  heard : Bool := true
  /-- The results of the checks, in this order. -/
  results : List Bool := []
  /-- The reports that were sent, in this order. -/
  sent : List Bool := []

namespace Patrol

/-- The number of reports that can wait. -/
def places : ℕ := 8

/-- A step of the probe or of the receiver. -/
inductive Move where
  /-- A check begins. -/
  | begin
  /-- A check ends. -/
  | result (online : Bool)
  /-- The report finds a place in the queue. -/
  | deliver
  /-- The report cannot be sent any more. -/
  | fail
  /-- The receiver takes the next report. -/
  | take
  /-- The receiver is dropped, and the queue with it. -/
  | drop
deriving DecidableEq

/-- What comes of a step, if it can be taken. -/
def next? (s : Patrol) : Move → Option Patrol
  | .begin => if s.stage = .resting then some { s with stage := .checking } else none
  | .result online =>
    if s.stage = .checking then
      let results := s.results ++ [online]
      match s.probing.report? online with
      | some report =>
        some { s with results, stage := .reporting report, probing.last? := some report }
      | none => some { s with results, stage := .resting }
    else none
  | .deliver =>
    match s.stage with
    | .reporting online =>
      if s.heard ∧ s.queue.length < places then
        some { s with stage := .resting, queue := s.queue ++ [online], sent := s.sent ++ [online] }
      else none
    | _ => none
  | .fail =>
    match s.stage with
    | .reporting _ =>
      if s.heard then none else some { s with stage := .ended, probing.running := false }
    | _ => none
  | .take =>
    match s.queue with
    | _ :: rest => some { s with queue := rest }
    | [] => none
  | .drop => if s.heard then some { s with heard := false, queue := [] } else none

/-- What comes of steps, one after the other, if all of them can be taken. -/
def after? (s : Patrol) (ks : List Move) : Option Patrol := runSteps? next? s ks

/-! ## The ways of a step -/

/-- The ways in which a step is taken. -/
inductive Step (s : Patrol) : Move → Patrol → Prop
  | begin (stage : s.stage = .resting) : Step s .begin { s with stage := .checking }
  | news {online : Bool} (stage : s.stage = .checking)
      (report : s.probing.report? online = some online) :
    Step s (.result online) { s with
      results := s.results ++ [online]
      stage := .reporting online
      probing := { s.probing with last? := some online } }
  | same {online : Bool} (stage : s.stage = .checking) (report : s.probing.report? online = none) :
    Step s (.result online) { s with results := s.results ++ [online], stage := .resting }
  | deliver {online : Bool} (stage : s.stage = .reporting online) (heard : s.heard = true)
      (place : s.queue.length < places) :
    Step s .deliver { s with
      stage := .resting, queue := s.queue ++ [online], sent := s.sent ++ [online] }
  | fail {online : Bool} (stage : s.stage = .reporting online) (heard : s.heard = false) :
    Step s .fail { s with stage := .ended, probing := { s.probing with running := false } }
  | take {online : Bool} {rest : List Bool} (queue : s.queue = online :: rest) :
    Step s .take { s with queue := rest }
  | drop (heard : s.heard = true) : Step s .drop { s with heard := false, queue := [] }

variable {s t u : Patrol} {k : Move} {ks ls : List Move} {online : Bool}

lemma step_of_next? (h : s.next? k = some t) : s.Step k t := by
  cases k with
  | begin =>
    rw [next?] at h
    split at h <;> cases h
    next hstage => exact .begin hstage
  | result online =>
    rw [next?] at h
    split at h
    next hstage =>
      by_cases hnews : s.probing.running = true ∧ s.probing.last? ≠ some online
      · have hreport : s.probing.report? online = some online := if_pos hnews
        rw [hreport] at h
        cases h
        exact .news hstage hreport
      · have hreport : s.probing.report? online = none := if_neg hnews
        rw [hreport] at h
        cases h
        exact .same hstage hreport
    next => cases h
  | deliver =>
    rw [next?] at h
    split at h
    next online hstage =>
      split at h <;> cases h
      next hplace => exact .deliver hstage hplace.1 hplace.2
    next => cases h
  | fail =>
    rw [next?] at h
    split at h
    next online hstage =>
      split at h <;> cases h
      next hheard => exact .fail hstage (Bool.eq_false_iff.mpr hheard)
    next => cases h
  | take =>
    rw [next?] at h
    split at h <;> cases h
    next online rest hqueue => exact .take hqueue
  | drop =>
    rw [next?] at h
    split at h <;> cases h
    next hheard => exact .drop hheard

/-- A check with nothing in between is a turn. -/
theorem turn_alone (resting : s.stage = .resting) (running : s.probing.running = true)
    (place : s.queue.length < places) (online : Bool) :
    (s.after? (.begin :: .result online :: if s.probing.last? = some online then []
      else if s.heard then [.deliver] else [.fail])).map (·.probing) =
      some (s.probing.turn s.heard online) := by
  by_cases hlast : s.probing.last? = some online
  · simp [after?, next?, Probing.turn, Probing.report?, resting, hlast]
  · cases hheard : s.heard <;>
      simp [after?, next?, Probing.turn, Probing.report?, resting, running, place, hlast, hheard]

/-! ## Sequences without repetitions -/

section Destutter

variable {α : Type} [DecidableEq α]

lemma destutter'_concat (a b : α) (l : List α) :
    (l ++ [b]).destutter' (· ≠ ·) a =
      if l.getLast?.getD a = b then l.destutter' (· ≠ ·) a
      else l.destutter' (· ≠ ·) a ++ [b] := by
  induction l generalizing a with
  | nil => by_cases h : a = b <;> simp [h]
  | cons c l ih =>
    rw [List.cons_append, List.getLast?_cons, Option.getD_some]
    by_cases hac : a = c
    · have hsame : ¬a ≠ c := not_not.mpr hac
      rw [List.destutter'_cons_neg _ hsame, List.destutter'_cons_neg _ hsame, ih, hac]
    · rw [List.destutter'_cons_pos _ hac, List.destutter'_cons_pos _ hac, ih]
      split <;> rfl

/-- An element is left out just if it repeats the one before. -/
lemma destutter_concat (l : List α) (b : α) :
    (l ++ [b]).destutter (· ≠ ·) =
      if l.getLast? = some b then l.destutter (· ≠ ·) else l.destutter (· ≠ ·) ++ [b] := by
  cases l with
  | nil => rfl
  | cons a l =>
    rw [List.cons_append, List.destutter_cons', List.destutter_cons', destutter'_concat,
      List.getLast?_cons]
    simp only [Option.some_inj]

omit [DecidableEq α] in
/-- What repeats the last element leaves it the last. -/
lemma getLast?_append_of_forall {xs ys : List α}
    (h : ∀ y ∈ ys, xs.getLast? = some y) : (xs ++ ys).getLast? = xs.getLast? := by
  rw [List.getLast?_append]
  cases hy : ys.getLast? with
  | none => rfl
  | some y => exact (h y (List.mem_of_getLast? hy)).symm

lemma head?_destutter (l : List α) : (l.destutter (· ≠ ·)).head? = l.head? := by
  induction l using List.reverseRecOn with
  | nil => rfl
  | append_singleton l b ih =>
    rw [destutter_concat, List.head?_append, ← ih]
    split
    next h =>
      cases l with
      | nil => cases h
      | cons a l => rw [ih]; rfl
    next => exact List.head?_append

lemma getLast?_destutter (l : List α) : (l.destutter (· ≠ ·)).getLast? = l.getLast? := by
  induction l using List.reverseRecOn with
  | nil => rfl
  | append_singleton l b ih =>
    rw [destutter_concat]
    split
    next h => rw [ih, h, List.getLast?_concat]
    next => rw [List.getLast?_concat, List.getLast?_concat]

end Destutter

lemma cons_reduceOption_reports (last : Bool) (results : List Bool) :
    last :: (Probing.reports ⟨some last, true⟩ results).reduceOption =
      results.destutter' (· ≠ ·) last := by
  induction results generalizing last with
  | nil => rfl
  | cons r rs ih =>
    by_cases h : last = r
    · rw [List.destutter'_cons_neg _ (not_not.mpr h), ← ih]
      simp [Probing.reports, Probing.turn, Probing.report?, h]
    · rw [List.destutter'_cons_pos _ h, ← ih]
      simp [Probing.reports, Probing.turn, Probing.report?, h]

/-- **The reports of a probe at work are the results without repetitions.** -/
theorem reduceOption_reports (results : List Bool) :
    (Probing.reports {} results).reduceOption = results.destutter (· ≠ ·) := by
  cases results with
  | nil => rfl
  | cons r rs => exact cons_reduceOption_reports r rs

/-! ## What every step keeps -/

/-- What is known of a probe at work. -/
structure Sound (s : Patrol) : Prop where
  running : s.probing.running = true ↔ s.stage ≠ .ended
  last? : s.probing.last? = s.results.getLast?
  /-- What was sent or is still to be sent are the results without repetitions. -/
  reports : s.stage ≠ .ended → s.sent ++ s.stage.pending?.toList = s.results.destutter (· ≠ ·)
  heard : s.heard = true → s.stage ≠ .ended
  places : s.queue.length ≤ places
  unheard : s.heard = false → s.queue = []

lemma sound_start : ({} : Patrol).Sound :=
  ⟨by decide, rfl, fun _ => rfl, fun _ => by decide, Nat.zero_le _, nofun⟩

/-- A result is news just if it differs from the one before. -/
lemma Sound.report? (hs : s.Sound) (hstage : s.stage ≠ .ended) (online : Bool) :
    s.probing.report? online = if s.results.getLast? = some online then none else some online := by
  rw [Probing.report?, hs.running.mpr hstage, hs.last?]
  by_cases hlast : s.results.getLast? = some online <;> simp [hlast]

lemma Sound.reports_at {stage : Probing.Stage} (hs : s.Sound) (hstage : s.stage = stage)
    (hgoing : stage ≠ .ended) : s.sent ++ stage.pending?.toList = s.results.destutter (· ≠ ·) := by
  subst hstage
  exact hs.reports hgoing

lemma Sound.getLast?_of_news (hs : s.Sound) (hstage : s.stage = .checking)
    (report : s.probing.report? online = some online) : s.results.getLast? ≠ some online := by
  rw [hs.report? (by simp [hstage])] at report
  exact fun hlast => by simp [hlast] at report

lemma Sound.getLast?_of_same (hs : s.Sound) (hstage : s.stage = .checking)
    (report : s.probing.report? online = none) : s.results.getLast? = some online := by
  rw [hs.report? (by simp [hstage])] at report
  simpa using report

namespace Step

lemma running (h : s.Step k t) (hs : s.Sound) :
    t.probing.running = true ↔ t.stage ≠ .ended := by
  cases h with
  | begin stage | news stage | same stage | deliver stage => simpa [stage] using hs.running
  | fail => simp
  | _ => exact hs.running

lemma last? (h : s.Step k t) (hs : s.Sound) : t.probing.last? = t.results.getLast? := by
  cases h with
  | news => exact List.getLast?_concat.symm
  | same stage report =>
    exact (hs.last?.trans (hs.getLast?_of_same stage report)).trans List.getLast?_concat.symm
  | _ => exact hs.last?

/-- A result that is news is still to be sent; what is sent is not to be sent any more. -/
lemma reports (h : s.Step k t) (hs : s.Sound) (ht : t.stage ≠ .ended) :
    t.sent ++ t.stage.pending?.toList = t.results.destutter (· ≠ ·) := by
  cases h with
  | begin stage =>
    have hreports := hs.reports_at stage nofun
    exact hreports
  | news stage report =>
    rw [destutter_concat, if_neg (hs.getLast?_of_news stage report), ← hs.reports_at stage nofun]
    exact congrArg (· ++ _) (List.append_nil _).symm
  | same stage report =>
    have hreports := hs.reports_at stage nofun
    rw [destutter_concat, if_pos (hs.getLast?_of_same stage report)]
    exact hreports
  | deliver stage => exact (List.append_nil _).trans (hs.reports_at stage nofun)
  | fail => exact absurd rfl ht
  | _ => exact hs.reports ht

lemma heard (h : s.Step k t) (hs : s.Sound) (ht : t.heard = true) : t.stage ≠ .ended := by
  cases h with
  | fail stage heard => simp [heard] at ht
  | take => exact hs.heard ht
  | drop => cases ht
  | _ => exact nofun

lemma places (h : s.Step k t) (hs : s.Sound) : t.queue.length ≤ places := by
  cases h with
  | deliver stage heard place => simpa using Nat.succ_le_of_lt place
  | take queue => exact Nat.le_of_succ_le (by simpa [queue] using hs.places)
  | drop => exact Nat.zero_le _
  | _ => exact hs.places

lemma unheard (h : s.Step k t) (hs : s.Sound) (ht : t.heard = false) : t.queue = [] := by
  cases h with
  | deliver stage heard => simp [heard] at ht
  | take queue => simp [hs.unheard ht] at queue
  | drop => rfl
  | _ => exact hs.unheard ht

end Step

namespace Sound

/-- **A step keeps what is known of the probe.** -/
lemma next (hs : s.Sound) (h : s.next? k = some t) : t.Sound :=
  have hstep := step_of_next? h
  ⟨hstep.running hs, hstep.last? hs, hstep.reports hs, hstep.heard hs, hstep.places hs,
    hstep.unheard hs⟩

lemma after (hs : s.Sound) (h : s.after? ks = some t) : t.Sound :=
  runSteps?_induction (fun _ _ _ hs hk => hs.next hk) hs h

end Sound

/-! ## The end of a check -/

namespace Sound

/-- When a check ends, the probe rests or has something to send. -/
lemma next?_result (hs : s.Sound) (hstage : s.stage = .checking) (online : Bool) :
    s.next? (.result online) = some (if s.results.getLast? = some online then
      { s with results := s.results ++ [online], stage := .resting }
    else
      { s with
        results := s.results ++ [online]
        stage := .reporting online
        probing := { s.probing with last? := some online } }) := by
  rw [next?, if_pos hstage, hs.report? (by simp [hstage])]
  by_cases hlast : s.results.getLast? = some online
  · rw [if_pos hlast, if_pos hlast]
  · rw [if_neg hlast, if_neg hlast]

/-- A check can find anything. -/
lemma exists_result (hs : s.Sound) (hstage : s.stage = .checking) (online : Bool) :
    ∃ t, s.next? (.result online) = some t ∧ t.stage ≠ .checking ∧
      t.results = s.results ++ [online] := by
  refine ⟨_, hs.next?_result hstage online, ?_⟩
  split
  · exact ⟨nofun, rfl⟩
  · exact ⟨nofun, rfl⟩

end Sound

/-! ## With a receiver -/

/-- What the probe sends waits at the end of the queue. -/
lemma Step.sent (h : s.Step k t) (own : k ≠ .take ∧ k ≠ .drop) :
    t.heard = s.heard ∧ ∃ new, t.sent = s.sent ++ new ∧ t.queue = s.queue ++ new := by
  cases h with
  | deliver => exact ⟨rfl, _, rfl, rfl⟩
  | take => exact absurd rfl own.1
  | drop => exact absurd rfl own.2
  | _ => exact ⟨rfl, [], (List.append_nil _).symm, (List.append_nil _).symm⟩

/-! ## Without a receiver -/

/-- The result of the check that ends. -/
def Move.result? : Move → Option Bool
  | .result online => some online
  | _ => none

namespace Step

lemma results (h : s.Step k t) : t.results = s.results ++ k.result?.toList := by
  cases h with
  | news | same => rfl
  | _ => exact (List.append_nil _).symm

lemma heard_eq_false (h : s.Step k t) (hs : s.heard = false) : t.heard = false := by
  cases h with
  | drop => rfl
  | _ => exact hs

/-- Without a receiver, a probe goes on just as long as nothing is news. -/
lemma goesOn (h : s.Step k t) (hs : s.Sound) (hheard : s.heard = false) :
    t.stage.goesOn ↔ s.stage.goesOn ∧ ∀ r ∈ k.result?.toList, s.results.getLast? = some r := by
  cases h with
  | begin stage => simp [stage, Move.result?, Probing.Stage.goesOn]
  | news stage report =>
    simpa [stage, Move.result?, Probing.Stage.goesOn] using hs.getLast?_of_news stage report
  | same stage report =>
    simpa [stage, Move.result?, Probing.Stage.goesOn] using hs.getLast?_of_same stage report
  | deliver stage heard | drop heard => simp [hheard] at heard
  | fail stage => simp [stage, Probing.Stage.goesOn]
  | take queue => simp [hs.unheard hheard] at queue

/-- When a probe without a receiver does not go on, all that is left to it is to fail. -/
lemma eq_fail (h : s.Step k t) (hs : s.Sound) (hheard : s.heard = false)
    (hover : s.stage.goesOn = false) : k = .fail ∧ s.stage ≠ .ended ∧ t.stage = .ended := by
  cases h with
  | begin stage | news stage | same stage => simp [stage, Probing.Stage.goesOn] at hover
  | deliver stage heard | drop heard => simp [hheard] at heard
  | fail stage => simp [stage]
  | take queue => simp [hs.unheard hheard] at queue

end Step

namespace Sound

lemma eq_fail_of_after? (hs : s.Sound) (hheard : s.heard = false) (hover : s.stage.goesOn = false)
    (h : s.after? ls = some t) : ls = [] ∨ ls = [.fail] := by
  cases ls with
  | nil => exact .inl rfl
  | cons k ls =>
    obtain ⟨u, hk, hrest⟩ := Option.bind_eq_some_iff.mp h
    obtain ⟨rfl, -, hended⟩ := (step_of_next? hk).eq_fail hs hheard hover
    cases ls with
    | nil => exact .inr rfl
    | cons l ls =>
      obtain ⟨v, hl, -⟩ := Option.bind_eq_some_iff.mp hrest
      have hover' : u.stage.goesOn = false := by rw [hended]; rfl
      exact absurd hended ((step_of_next? hl).eq_fail (hs.next hk)
        ((step_of_next? hk).heard_eq_false hheard) hover').2.1

/-- A probe that goes on can check again and find what it has found before. -/
lemma exists_again (hs : s.Sound) (hon : s.stage.goesOn)
    (hlast : s.results.getLast? = some online) :
    ∃ t, Reaches next? s t ∧ t.results = s.results ++ [online] ∧ t.stage.goesOn := by
  have hchecking (u : Patrol) (hu : u.Sound) (hstage : u.stage = .checking)
      (hresults : u.results = s.results) :
      ∃ t, Reaches next? u t ∧ t.results = s.results ++ [online] ∧ t.stage.goesOn := by
    have hresult := hu.next?_result hstage online
    rw [hresults, if_pos hlast] at hresult
    exact ⟨_, .step hresult, rfl, rfl⟩
  cases hstage : s.stage with
  | resting =>
    have hbegin : s.next? .begin = some { s with stage := .checking } := if_pos hstage
    obtain ⟨t, ht, hfound⟩ := hchecking _ (hs.next hbegin) rfl rfl
    exact ⟨t, .trans (.step hbegin) ht, hfound⟩
  | checking => exact hchecking s hs hstage rfl
  | reporting | ended => simp [hstage, Probing.Stage.goesOn] at hon

/-- A probe that goes on can find the same as often as one likes. -/
lemma exists_steady (hs : s.Sound) (hon : s.stage.goesOn)
    (hlast : s.results.getLast? = some online) (n : ℕ) :
    ∃ t, Reaches next? s t ∧ t.results = s.results ++ List.replicate n online ∧
      t.stage.goesOn := by
  induction n with
  | zero => exact ⟨s, .refl s, (List.append_nil _).symm, hon⟩
  | succ n ih =>
    obtain ⟨t, ⟨ls, ht⟩, hresults, hon⟩ := ih
    have hlast' : t.results.getLast? = some online := by
      rw [hresults, getLast?_append_of_forall fun y hy => List.eq_of_mem_replicate hy ▸ hlast]
      exact hlast
    obtain ⟨u, hu, hresults', hon'⟩ := (hs.after ht).exists_again hon hlast'
    refine ⟨u, .trans ⟨ls, ht⟩ hu, ?_, hon'⟩
    rw [hresults', hresults, List.replicate_succ', List.append_assoc]

end Sound

/-- Since a state, a probe has gone on just as long as nothing that it found was news. -/
def GoesOnSince (s t : Patrol) : Prop :=
  ∃ rs, t.results = s.results ++ rs ∧
    (t.stage.goesOn ↔ s.stage.goesOn ∧ ∀ r ∈ rs, s.results.getLast? = some r)

lemma GoesOnSince.next (h : GoesOnSince s t) (ht : t.Sound) (hheard : t.heard = false)
    (hk : t.next? k = some u) : GoesOnSince s u := by
  obtain ⟨rs, hresults, hon⟩ := h
  have hstep := step_of_next? hk
  refine ⟨rs ++ k.result?.toList, ?_, ?_⟩
  · rw [hstep.results, hresults, List.append_assoc]
  · rw [hstep.goesOn ht hheard, hon, List.forall_mem_append, and_assoc]
    refine and_congr_right fun _ => and_congr_right fun hrs => ?_
    rw [hresults, getLast?_append_of_forall hrs]

/-- From the drop on, a probe goes on just as long as nothing that it finds is news. -/
lemma Sound.goesOnSince (hs : s.Sound) (hheard : s.heard = false) (h : s.after? ls = some t) :
    t.heard = false ∧ GoesOnSince s t := by
  let Known (t : Patrol) : Prop := t.Sound ∧ t.heard = false ∧ GoesOnSince s t
  have hknown : Known t := by
    refine runSteps?_induction (fun u k v hu hk => ?_) ⟨hs, hheard, [], by simp⟩ h
    obtain ⟨hsound, hheard, hsince⟩ := hu
    exact ⟨hsound.next hk, (step_of_next? hk).heard_eq_false hheard,
      hsince.next hsound hheard hk⟩
  exact hknown.2

/-- **The end of a probe whose receiver was dropped.**  From the drop on, at whatever moment it
came, and whatever is found later:

* the probe goes on just as long as every result is the same as the last one before, and as long as
  it goes on, it can find the same again as often as one likes;
* when a result differs, or a report was still to be sent, it does not check any more: it fails to
  send the report and has ended;
* the next check of a probe that rests is a turn of `Probing` that nobody hears. -/
theorem ends_with_news (reached : ({} : Patrol).after? ks = some s) (dropped : s.heard = false)
    (later : s.after? ls = some t) :
    ∃ rs, t.results = s.results ++ rs ∧
      (t.stage.goesOn ↔ s.stage.goesOn ∧ ∀ r ∈ rs, s.results.getLast? = some r) ∧
      (t.stage.goesOn → ∀ online, t.results.getLast? = some online →
        ∀ n, ∃ ms u, t.after? ms = some u ∧ u.results = t.results ++ List.replicate n online) ∧
      (t.stage.goesOn = false →
        (t.stage = .ended ∨ ∃ u, t.next? .fail = some u ∧ u.stage = .ended) ∧
        ∀ ms u, t.after? ms = some u → ms = [] ∨ ms = [.fail]) ∧
      (t.stage = .resting → ∀ online,
        (t.after? (.begin :: .result online ::
            if t.probing.last? = some online then [] else [.fail])).map (·.probing) =
          some (t.probing.turn false online)) := by
  have hs : s.Sound := sound_start.after reached
  have ht : t.Sound := hs.after later
  obtain ⟨hheard, rs, hresults, hon⟩ := hs.goesOnSince dropped later
  refine ⟨rs, hresults, hon, fun hon online hlast n => ?_, fun hover => ⟨?_, fun ms u hu => ?_⟩,
    fun hresting online => ?_⟩
  · obtain ⟨u, ⟨ms, hu⟩, hagain, -⟩ := ht.exists_steady hon hlast n
    exact ⟨ms, u, hu, hagain⟩
  · cases hstage : t.stage with
    | resting | checking => simp [hstage, Probing.Stage.goesOn] at hover
    | reporting online => exact .inr (by simp [next?, hstage, hheard])
    | ended => exact .inl rfl
  · exact ht.eq_fail_of_after? hheard hover hu
  · have hturn := turn_alone hresting (ht.running.mpr (by simp [hresting]))
      (by simp [ht.unheard hheard, places]) online
    simpa only [hheard, Bool.false_eq_true, if_false] using hturn

/-- The receiver is dropped in the middle of a check. -/
def droppedMeanwhile : List Move := [.begin, .result true, .deliver, .begin, .drop]

theorem ends_with_news_changed :
    ∃ s t, ({} : Patrol).after? droppedMeanwhile = some s ∧ s.heard = false ∧
      s.after? [.result true, .begin, .result false] = some t ∧ t.stage = .reporting false ∧
      (∃ u, t.next? .fail = some u ∧ u.stage = .ended) ∧
      ∀ ms u, t.after? ms = some u → ms = [] ∨ ms = [.fail] := by
  let s : Patrol :=
    { probing.last? := some true, stage := .checking, heard := false, results := [true]
      sent := [true] }
  have reached : ({} : Patrol).after? droppedMeanwhile = some s := rfl
  have later : s.after? [.result true, .begin, .result false] = some { s with
      probing.last? := some false, stage := .reporting false, results := [true, true, false] } := rfl
  obtain ⟨-, -, -, -, hover, -⟩ := ends_with_news reached rfl later
  obtain ⟨hends, honly⟩ := hover rfl
  exact ⟨s, _, reached, rfl, later, rfl, hends.resolve_left (by decide), honly⟩

/-- Without an endpoint every check finds the network there, and the probe goes on after the
receiver was dropped. -/
theorem checks_after_drop :
    (Probe.ofConfig {}).check .unreachable = true ∧
      ∃ s t, ({} : Patrol).after? [.begin, .result true, .deliver, .take, .drop] = some s ∧
        s.heard = false ∧ s.after? [.begin, .result true, .begin, .result true] = some t ∧
        t.stage = .resting :=
  ⟨rfl, _, _, rfl, rfl, rfl, rfl⟩

end Patrol

end LinkWatch
