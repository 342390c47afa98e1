/-
# What the background clock is told

The event loop tells the background clock of every change of the regime, and of nothing else.
`Watchdog.owed` lists the commands that belong to the changes along a life, and `Watchdog.sent`
those that were sent.  As long as the loop runs and holds the link the two are the same; once the
link is lost nothing more is sent (`Watchdog.sent_prefix_owed`).

A change of the regime is told only where it makes a difference to the clock
(`Regime.commands_eq`), so that each command differs from the one before
(`Watchdog.isChain_owed`).
-/
import LinkWatch.Proofs.Watchdog.Life
import Mathlib.Data.List.Chain
import Mathlib.Data.List.Induction

namespace LinkWatch

namespace Regime

/-- The command to do what the regime asks for. -/
def announcement (r : Regime) : ClockCommand := if r.onLine then .start r.intervalMs else .stop

/-- A change of the regime is told by the announcement of the new one, if it is a new
announcement. -/
lemma commands_eq (r r' : Regime) :
    r.commands r' = if r'.announcement = r.announcement then [] else [r'.announcement] := by
  obtain ⟨on, n⟩ := r
  obtain ⟨on', n'⟩ := r'
  cases on <;> cases on' <;> simp [commands, announcement]

end Regime

namespace Core

variable {m : Moment} {c c' : Core} {i : Incident} {acts : List Effect}

/-! ## Commands and the link in a turn -/

lemma filterMap_command?_tellClock (held listening : Bool) (ks : List ClockCommand) :
    (tellClock held listening ks).filterMap Effect.command? =
      if held && listening then ks else [] := by
  cases held with
  | false => rfl
  | true =>
    cases ks with
    | nil => simp [tellClock]
    | cons k ks => cases listening <;> simp [tellClock, Effect.command?, Function.comp_def]

lemma any_isRelease_tellClock (held listening : Bool) (ks : List ClockCommand) :
    (tellClock held listening ks).any Effect.isRelease = (held && !(listening || ks.isEmpty)) := by
  cases held with
  | false => rfl
  | true =>
    cases ks with
    | nil => simp [tellClock]
    | cons k ks => cases listening <;> simp [tellClock, Effect.isRelease]

namespace Outcome

/-- The loop goes on holding the link unless it drops it. -/
lemma workerHeld (h : Outcome m c i c' acts) :
    c'.workerHeld = (c.workerHeld && !acts.any Effect.isRelease) := by
  cases h with
  | changed hne =>
    rw [adoptActs, any_isRelease_tellClock]
    show (c.workerHeld && (m.listening || _)) = _
    cases c.workerHeld <;> simp
  | lost => simp [Effect.isRelease]
  | begun ht =>
    rw [beginPing_fst ht]
    simp [Effect.isRelease]
  | answered result => cases result <;> simp [endPing]
  | _ => simp [backgroundTick]

/-- While the regime stays, there is nothing to tell. -/
lemma told_nothing (h : c'.regime = c.regime) :
    (if c'.workerHeld then c.regime.commands c'.regime else []) = [] := by
  rw [h, Regime.commands_self, ite_self]

/-- The clock is told of a change of the regime, and of nothing else, unless the link is lost. -/
lemma commands (h : Outcome m c i c' acts) :
    acts.filterMap Effect.command? =
      if c'.workerHeld then c.regime.commands c'.regime else [] := by
  cases h with
  | changed hne =>
    rw [adoptActs, filterMap_command?_tellClock]
    show _ = if c.workerHeld && (m.listening || _) then
      c.regime.commands (c.regime.after c.config i) else _
    cases c.workerHeld with
    | false => rfl
    | true =>
      cases m.listening with
      | true => rfl
      | false =>
        -- the link is lost, unless there was nothing to tell
        cases c.regime.commands (c.regime.after c.config i) <;> simp
  | begun ht =>
    refine (told_nothing ?_).symm
    rw [beginPing_fst ht]
    rfl
  | answered result =>
    refine (told_nothing ?_).symm
    cases result <;> rfl
  | _ => exact (told_nothing rfl).symm

/-- The link is lost only to a clock that takes no commands, or that has gone. -/
lemma workerHeld_or (h : Outcome m c i c' acts) (hc : c.workerHeld = true)
    (hm : m.listening = true) (hi : i ≠ .workerGone) : c'.workerHeld = true := by
  cases h with
  | changed hne =>
    show (c.workerHeld && (m.listening || _)) = true
    rw [hc, hm]
    rfl
  | lost => exact absurd rfl hi
  | begun ht =>
    rw [beginPing_fst ht]
    exact hc
  | answered result => cases result <;> exact hc
  | _ => exact hc

end Outcome

end Core

namespace Watchdog

variable {w : Watchdog} {h : Happening} {hs xs ys : List Happening}

/-! ## Commands along a life -/

/-- The commands that were sent. -/
def sent (w : Watchdog) : List Happening → List ClockCommand
  | [] => []
  | h :: hs => (w.happen h).2.filterMap Effect.command? ++ (w.happen h).1.sent hs

/-- The commands that belong to the changes of the regime. -/
def owed (w : Watchdog) : List Happening → List ClockCommand
  | [] => []
  | h :: hs => w.core.regime.commands (w.happen h).1.core.regime ++ (w.happen h).1.owed hs

lemma sent_append (w : Watchdog) (xs ys : List Happening) :
    w.sent (xs ++ ys) = w.sent xs ++ (w.after xs).sent ys := by
  induction xs generalizing w with
  | nil => rfl
  | cons h xs ih => rw [List.cons_append, sent, ih, sent, after_cons, List.append_assoc]

lemma owed_append (w : Watchdog) (xs ys : List Happening) :
    w.owed (xs ++ ys) = w.owed xs ++ (w.after xs).owed ys := by
  induction xs generalizing w with
  | nil => rfl
  | cons h xs ih => rw [List.cons_append, owed, ih, owed, after_cons, List.append_assoc]

/-- Each of the commands that belong to the changes of the regime differs from the one before; the
first is not the announcement of the regime at the beginning. -/
lemma isChain_owed (w : Watchdog) (hs : List Happening) :
    (w.core.regime.announcement :: w.owed hs).IsChain (· ≠ ·) := by
  induction hs generalizing w with
  | nil => exact List.isChain_singleton _
  | cons h hs ih =>
    have hnext := ih (w.happen h).1
    rw [owed, Regime.commands_eq]
    split
    next heq => exact heq ▸ hnext
    next hne => exact List.isChain_cons_cons.mpr ⟨Ne.symm hne, hnext⟩

/-- As long as the loop goes on, it tells the clock of changes of the regime, unless the link is
lost. -/
lemma commands_happen (ha : w.allows h) (hp : (w.happen h).1.phase = .running) :
    (w.happen h).2.filterMap Effect.command? =
      if (w.happen h).1.core.workerHeld then w.core.regime.commands (w.happen h).1.core.regime
      else [] := by
  cases h with
  | bind i =>
    show ([] : List ClockCommand) = if _ then w.core.regime.commands w.core.regime else []
    simp
  | finish m => cases hp
  | turn m i =>
    obtain ⟨c', hc', ho⟩ := Core.step_outcome m w.core i
    have hk := ho.commands
    rw [Effect.filterMap_command?_acts] at hk
    show (w.core.step m i).2.filterMap _ = if (w.core.step m i).1.workerHeld then
      w.core.regime.commands (w.core.step m i).1.regime else []
    rw [hk, hc', Core.workerHeld_shown, Core.regime_shown]

/-- A loop that is still running was running before. -/
lemma running_of_happen (hp : (w.happen h).1.phase = .running) : w.phase = .running := by
  cases h with
  | finish m => cases hp
  | _ => exact hp

/-- Whether the loop runs and holds the link. -/
def holdsLink (w : Watchdog) : Bool := decide (w.phase = .running) && w.core.workerHeld

lemma holdsLink_iff : w.holdsLink = true ↔ w.phase = .running ∧ w.core.workerHeld = true := by
  simp [holdsLink]

/-- The link is held until it is dropped. -/
lemma holdsLink_happen (ha : w.allows h) :
    (w.happen h).1.holdsLink = (w.holdsLink && !(w.happen h).2.any Effect.isRelease) := by
  cases h with
  | bind i => exact (Bool.and_true _).symm
  | finish m =>
    have hrel : (w.core.finish m).2.any Effect.isRelease = true := by
      rw [← Effect.any_isRelease_acts, Core.finish_acts]
      simp [Effect.isRelease]
    show false = (w.holdsLink && !(w.core.finish m).2.any Effect.isRelease)
    rw [hrel, Bool.not_true, Bool.and_false]
  | turn m i =>
    obtain ⟨c', hc', ho⟩ := Core.step_outcome m w.core i
    have hheld := ho.workerHeld
    rw [Effect.any_isRelease_acts] at hheld
    show (_ && (w.core.step m i).1.workerHeld) = (_ && _ && !(w.core.step m i).2.any _)
    rw [hc', Core.workerHeld_shown, hheld, Bool.and_assoc]
    rfl

/-- The commands that were sent are the first of those that belong to the changes of the regime, and
all of them while the loop holds the link. -/
lemma sent_prefix_owed (hl : w.lives hs) (hp : (w.after hs).phase = .running) :
    w.sent hs <+: w.owed hs ∧ ((w.after hs).holdsLink = true → w.sent hs = w.owed hs) := by
  -- induction on the life, the latest happening first
  induction hs using List.reverseRecOn with
  | nil => exact ⟨List.prefix_rfl, fun _ => rfl⟩
  | append_singleton xs h ih =>
    obtain ⟨hlx, ha, -⟩ := lives_append_cons.mp hl
    rw [after_concat] at hp ⊢
    obtain ⟨hpre, heq⟩ := ih hlx (running_of_happen hp)
    have hsent : w.sent (xs ++ [h]) = w.sent xs ++
        ((w.after xs).happen h).2.filterMap Effect.command? := by
      rw [sent_append, sent, sent, List.append_nil]
    have howed : w.owed (xs ++ [h]) = w.owed xs ++
        (w.after xs).core.regime.commands ((w.after xs).happen h).1.core.regime := by
      rw [owed_append, owed, owed, List.append_nil]
    rw [hsent, howed, commands_happen ha hp]
    cases hheld : ((w.after xs).happen h).1.core.workerHeld with
    | true =>
      -- the link was held before as well, and nothing was left out
      have hlink := holdsLink_happen ha
      rw [holdsLink_iff.mpr ⟨hp, hheld⟩] at hlink
      rw [if_pos rfl, heq (Bool.and_eq_true_iff.mp hlink.symm).1]
      exact ⟨List.prefix_rfl, fun _ => rfl⟩
    | false =>
      rw [if_neg Bool.false_ne_true, List.append_nil]
      refine ⟨hpre.trans (List.prefix_append _ _), fun h => ?_⟩
      rw [(holdsLink_iff.mp h).2] at hheld
      cases hheld

end Watchdog

end LinkWatch
