/-
# Steps, one after the other

Where several parties act at the same time, what each of them can do next is a step, which can be
taken in some states and leads to another.  A run is a list of steps in which each one can be taken
where the ones before it have led.
-/
import Mathlib.Data.List.Induction
import Mathlib.Tactic.Common

namespace LinkWatch

variable {σ μ : Type}

/-- What comes of steps, one after the other, if all of them can be taken. -/
def runSteps? (next? : σ → μ → Option σ) (s : σ) (ks : List μ) : Option σ := ks.foldlM next? s

variable {next? : σ → μ → Option σ} {s t u : σ} {k : μ} {ks ls : List μ}

@[simp] lemma runSteps?_nil : runSteps? next? s [] = some s := rfl

@[simp] lemma runSteps?_cons :
    runSteps? next? s (k :: ks) = (next? s k).bind fun t => runSteps? next? t ks := rfl

lemma runSteps?_append :
    runSteps? next? s (ks ++ ls) = (runSteps? next? s ks).bind fun t => runSteps? next? t ls :=
  List.foldlM_append

/-- **What every step keeps, a run keeps.** -/
lemma runSteps?_induction {P : σ → Prop} (step : ∀ s k t, P s → next? s k = some t → P t)
    (hs : P s) (h : runSteps? next? s ks = some t) : P t := by
  induction ks generalizing s with
  | nil =>
    cases h
    exact hs
  | cons k ks ih =>
    obtain ⟨u, hk, hrest⟩ := Option.bind_eq_some_iff.mp (runSteps?_cons ▸ h)
    exact ih (step s k u hs hk) hrest

/-- **What every step keeps of the steps so far and of where they led, a run keeps.** -/
lemma runSteps?_history {P : List μ → σ → Prop} (nil : P [] s)
    (concat : ∀ ks t k u, P ks t → next? t k = some u → P (ks ++ [k]) u)
    (h : runSteps? next? s ks = some t) : P ks t := by
  induction ks using List.reverseRecOn generalizing t with
  | nil =>
    cases h
    exact nil
  | append_singleton ks k ih =>
    rw [runSteps?_append] at h
    obtain ⟨u, hu, hk⟩ := Option.bind_eq_some_iff.mp h
    exact concat ks u k t (ih hu) (by simpa using hk)

/-! ## Where steps lead -/

/-- Some steps lead from one state to another. -/
def Reaches (next? : σ → μ → Option σ) (s t : σ) : Prop := ∃ ks, runSteps? next? s ks = some t

lemma Reaches.refl (s : σ) : Reaches next? s s := ⟨[], rfl⟩

lemma Reaches.step (h : next? s k = some t) : Reaches next? s t :=
  ⟨[k], by rw [runSteps?_cons, h, Option.bind_some, runSteps?_nil]⟩

lemma Reaches.trans (h : Reaches next? s t) (h' : Reaches next? t u) : Reaches next? s u := by
  obtain ⟨ks, h⟩ := h
  obtain ⟨ls, h'⟩ := h'
  exact ⟨ks ++ ls, by rw [runSteps?_append, h, Option.bind_some, h']⟩

end LinkWatch
