/-
# What a snapshot says of the past

The counters of a snapshot, its two times of the last ticks and its two drifts are set in different
turns, and going offline forgets some of what they are found from, but not all.  `Status.Tallied`
says at once how each happening moves them.  Therefore they say of the past exactly what they are
meant to say (`Watchdog.status_accounts`).

The channel that takes or refuses the heartbeats may be a loopback channel, which records them.  It
is not part of the watchdog: `Loopback.Answers` says that the answers in a life are those that such
a channel gives.
-/
import LinkWatch.Channel.Loopback
import LinkWatch.Proofs.Simulation.VirtualTime
import LinkWatch.Proofs.Watchdog.BackgroundDrift
import LinkWatch.Proofs.Watchdog.ForegroundDrift
import LinkWatch.Proofs.Watchdog.NothingNew

namespace LinkWatch

namespace Happening

/-- Whether the event loop learns that the channel has taken a heartbeat. -/
def isTaken : Happening → Bool
  | .turn _ (.emitted (.ok _)) => true
  | _ => false

/-- Whether the event loop learns that the channel has refused a heartbeat. -/
def isRefused : Happening → Bool
  | .turn _ (.emitted (.error _)) => true
  | _ => false

/-- The number of malformed directives that the event loop finds. -/
def rejections (h : Happening) : ℕ := (h.incident?.map Incident.rejections).getD 0

lemma countP_concat (p : Happening → Bool) (hs : List Happening) (h : Happening) :
    (hs ++ [h]).countP p = hs.countP p + (p h).toNat := by
  rw [List.countP_append, List.countP_singleton]
  cases p h <;> rfl

end Happening

namespace Status

/-- The counters of a snapshot. -/
def counters (s : Status) : ℕ × ℕ × ℕ × ℕ :=
  (s.heartbeatsSent, s.emitFailures, s.backgroundTicks, s.rejectedDirectives)

/-- How the counters and the times of the last ticks are moved when something happens. -/
structure Tallied (h : Happening) (s s' : Status) : Prop where
  heartbeatsSent : s'.heartbeatsSent = s.heartbeatsSent + h.isTaken.toNat
  emitFailures : s'.emitFailures = s.emitFailures + h.isRefused.toNat
  backgroundTicks : s'.backgroundTicks = s.backgroundTicks + h.isBackgroundTick.toNat
  rejectedDirectives : s'.rejectedDirectives = s.rejectedDirectives + h.rejections
  lastForegroundPing? :
    s'.lastForegroundPing?.isSome = (s.lastForegroundPing?.isSome || h.isTick)
  lastBackgroundPing? :
    s'.lastBackgroundPing?.isSome = (s.lastBackgroundPing?.isSome || h.isBackgroundTick)

/-- What the counters and the times of the last ticks say of the past. -/
structure Records (hs : List Happening) (s : Status) : Prop where
  heartbeatsSent : s.heartbeatsSent = hs.countP Happening.isTaken
  emitFailures : s.emitFailures = hs.countP Happening.isRefused
  backgroundTicks : s.backgroundTicks = hs.countP Happening.isBackgroundTick
  lastForegroundPing? : s.lastForegroundPing?.isSome = hs.any Happening.isTick
  lastBackgroundPing? : s.lastBackgroundPing?.isSome = hs.any Happening.isBackgroundTick

variable {h : Happening} {hs : List Happening} {s s' : Status}

lemma Tallied.counters_le (ht : Tallied h s s') : s.counters ≤ s'.counters :=
  ⟨(Nat.le_add_right _ _).trans_eq ht.heartbeatsSent.symm,
    (Nat.le_add_right _ _).trans_eq ht.emitFailures.symm,
    (Nat.le_add_right _ _).trans_eq ht.backgroundTicks.symm,
    (Nat.le_add_right _ _).trans_eq ht.rejectedDirectives.symm⟩

lemma Records.concat (hr : Records hs s) (ht : Tallied h s s') : Records (hs ++ [h]) s' where
  heartbeatsSent := by rw [ht.heartbeatsSent, hr.heartbeatsSent, Happening.countP_concat]
  emitFailures := by rw [ht.emitFailures, hr.emitFailures, Happening.countP_concat]
  backgroundTicks := by rw [ht.backgroundTicks, hr.backgroundTicks, Happening.countP_concat]
  lastForegroundPing? := by
    rw [ht.lastForegroundPing?, hr.lastForegroundPing?, List.any_append]
    simp
  lastBackgroundPing? := by
    rw [ht.lastBackgroundPing?, hr.lastBackgroundPing?, List.any_append]
    simp

end Status

namespace Core

variable {m : Moment} {c c' : Core} {i : Incident} {h : Happening} {s : Status}
  {acts : List Effect}

/-! ## Turns -/

lemma tallied_shown (ht : Status.Tallied h s c.status) : Status.Tallied h s c.shown.status := by
  rw [shown]
  split
  · exact ht
  · exact ⟨ht.1, ht.2, ht.3, ht.4, ht.5, ht.6⟩

lemma tallied_handle (haw : c.awaits m i) :
    Status.Tallied (.turn m i) c.status (c.handle m i).1.status := by
  by_cases hs : i.steers
  · rw [handle_fst_of_steers m hs]
    cases i with
    | signal | inbound | setInterval =>
      exact ⟨rfl, rfl, rfl, rfl, (Bool.or_false _).symm, (Bool.or_false _).symm⟩
    | _ => cases hs
  · cases i with
    | signal | inbound | setInterval => exact absurd rfl hs
    | workerTick => exact ⟨rfl, rfl, rfl, rfl, (Bool.or_false _).symm, (Bool.or_true _).symm⟩
    | due =>
      simp only [awaits, Bool.and_eq_true] at haw
      obtain ⟨⟨d, t⟩, ht⟩ := Option.isSome_iff_exists.mp haw.2
      rw [handle, beginPing_fst ht]
      exact ⟨rfl, rfl, rfl, rfl, (Bool.or_true _).symm, (Bool.or_false _).symm⟩
    | emitted result =>
      cases result <;>
        exact ⟨rfl, rfl, rfl, rfl, (Bool.or_false _).symm, (Bool.or_false _).symm⟩
    | _ => exact ⟨rfl, rfl, rfl, rfl, (Bool.or_false _).symm, (Bool.or_false _).symm⟩

/-- The last foreground tick is forgotten when the network goes, and only then. -/
lemma Outcome.lastForegroundPing?_eq (h : Outcome m c i c' acts) (hi : i ≠ .due) :
    c'.lastForegroundPing? =
      if c.status.onLine && !c'.status.onLine then none else c.lastForegroundPing? := by
  cases h with
  | changed => rfl
  | begun => exact absurd rfl hi
  | counted => simp [backgroundTick]
  | answered result => cases result <;> simp [endPing]
  | _ => simp

/-- While a heartbeat is under way nothing is shown. -/
lemma emitting_of_publish_mem_step (hshown : Effect.publish s ∈ (c.step m i).2) :
    (c.step m i).1.emitting = false := by
  rw [step_fst, emitting_shown]
  rw [step_eq] at hshown
  split at hshown
  · exact absurd hshown (publish_notMem_handle m c s i)
  next hidle => exact Bool.eq_false_iff.mpr hidle

end Core

namespace Watchdog

variable {config : HeartbeatConfig} {workerHeld : Bool} {w : Watchdog} {h : Happening}
  {hs : List Happening} {s : Status}

/-! ## Happenings -/

/-- **How each happening moves the counters.** -/
lemma tallied_happen (ha : w.allows h) :
    Status.Tallied h w.core.status (w.happen h).1.core.status := by
  cases h with
  | turn m i =>
    show Status.Tallied _ _ (w.core.step m i).1.status
    rw [Core.step_fst]
    exact Core.tallied_shown (Core.tallied_handle (allows_turn_iff.mp ha).2)
  | bind i => exact ⟨rfl, rfl, rfl, rfl, (Bool.or_false _).symm, (Bool.or_false _).symm⟩
  | finish m =>
    show Status.Tallied _ _ (w.core.finish m).1.status
    rw [Core.finish_fst]
    exact ⟨rfl, rfl, rfl, rfl, (Bool.or_false _).symm, (Bool.or_false _).symm⟩

/-- After a turn a heartbeat is under way just when a tick was taken in it. -/
lemma emitting_turn {m : Moment} {i : Incident} (ha : w.allows (.turn m i)) :
    (w.happen (.turn m i)).1.core.emitting = (Happening.turn m i).isTick := by
  rw [Bool.eq_iff_iff, ← emit_mem_happen_iff ha]
  exact Core.emitting_step_iff (allows_turn_iff.mp ha).2

/-- Each tick that is taken has a heartbeat under way, until the channel answers. -/
lemma emitting_happen (ha : w.allows h) :
    h.isTick.toNat + w.core.emitting.toNat =
      h.isTaken.toNat + h.isRefused.toNat + (w.happen h).1.core.emitting.toNat := by
  cases h with
  | bind i => rfl
  | finish m =>
    have hidle := (allows_finish_iff.mp ha).2
    have hcore : (w.happen (.finish m)).1.core = _ := Core.finish_fst m w.core
    rw [hcore]
    simp [Core.publish, hidle, Happening.isTick, Happening.isTaken, Happening.isRefused]
  | turn m i =>
    have haw := (allows_turn_iff.mp ha).2
    rw [emitting_turn ha]
    cases i with
    | emitted result =>
      have hbusy : w.core.emitting = true := haw
      rw [hbusy]
      cases result <;> rfl
    | _ =>
      have hidle : w.core.emitting = false := by simp_all [Core.awaits]
      rw [hidle]
      rfl

/-- While a heartbeat is under way nothing is shown. -/
lemma emitting_of_publish_mem_happen (ha : w.allows h)
    (hshown : Effect.publish s ∈ (w.happen h).2) : (w.happen h).1.core.emitting = false := by
  cases h with
  | turn m i => exact Core.emitting_of_publish_mem_step hshown
  | bind i => simp [happen] at hshown
  | finish m =>
    show (w.core.finish m).1.emitting = false
    rw [Core.finish_fst]
    exact (allows_finish_iff.mp ha).2

lemma lastForegroundPing?_happen (ht : h.isTick = false) :
    (w.happen h).1.core.lastForegroundPing? =
      if w.core.status.onLine && !(w.happen h).1.core.status.onLine then none
      else w.core.lastForegroundPing? := by
  cases h with
  | bind i => simp [happen, bindIndicator]
  | finish m =>
    have hcore : (w.happen (.finish m)).1.core = _ := Core.finish_fst m w.core
    rw [hcore]
    simp [Core.publish, Core.snapshot]
  | turn m i =>
    have hi : i ≠ .due := by
      rintro rfl
      cases ht
    obtain ⟨c', hc', ho⟩ := Core.step_outcome m w.core i
    have hcore : (w.happen (.turn m i)).1.core = c'.shown := hc'
    rw [hcore, Core.lastForegroundPing?_shown, Core.onLine_shown]
    exact ho.lastForegroundPing?_eq hi

/-- What a foreground tick leaves behind. -/
lemma happen_due {m : Moment} (ha : w.allows (.turn m .due)) :
    (w.happen (.turn m .due)).1.core.lastForegroundPing? = some m.now ∧
      (w.happen (.turn m .due)).1.core.status.foregroundDriftMs? =
        (w.core.lastForegroundPing?.map fun last =>
          driftMs (m.now - last) w.core.status.intervalMs).or w.core.status.foregroundDriftMs? := by
  obtain ⟨d, t, ht⟩ := tick_due_of_allows ha
  have hcore : (w.happen (.turn m .due)).1.core = (w.core.beginPing m).1 := Core.step_due ht
  rw [hcore, Core.beginPing_fst ht]
  exact ⟨rfl, rfl⟩

/-! ## Lives -/

lemma records (hl : (launch config workerHeld).lives hs) :
    Status.Records hs ((launch config workerHeld).after hs).core.status := by
  -- induction on the life, the latest happening first
  induction hs using List.reverseRecOn with
  | nil => exact ⟨rfl, rfl, rfl, rfl, rfl⟩
  | append_singleton xs h ih =>
    obtain ⟨hlx, ha, -⟩ := lives_append_cons.mp hl
    rw [after_concat]
    exact (ih hlx).concat (tallied_happen ha)

/-- Every tick that was taken was answered, except for the last while its heartbeat is under way. -/
lemma countP_isTick (hl : (launch config workerHeld).lives hs) :
    hs.countP Happening.isTick =
      hs.countP Happening.isTaken + hs.countP Happening.isRefused +
        ((launch config workerHeld).after hs).core.emitting.toNat := by
  induction hs using List.reverseRecOn with
  | nil => rfl
  | append_singleton xs h ih =>
    obtain ⟨hlx, ha, -⟩ := lives_append_cons.mp hl
    have hstep := emitting_happen ha
    have hbefore := ih hlx
    rw [after_concat, Happening.countP_concat, Happening.countP_concat,
      Happening.countP_concat]
    omega

lemma length_attempts (hl : w.lives hs) :
    (w.attempts hs).length = hs.countP Happening.isTick := by
  induction hs generalizing w with
  | nil => rfl
  | cons h hs ih =>
    obtain ⟨ha, hl'⟩ := lives_cons.mp hl
    cases ht : h.isTick with
    | false =>
      rw [attempts_of_isTick_eq_false ha ht, ih hl', List.countP_cons_of_neg (by simp [ht])]
    | true =>
      obtain ⟨m, rfl⟩ := Happening.isTick_iff.mp ht
      rw [attempts_tick ha, List.length_cons, ih hl', List.countP_cons_of_pos rfl]

/-! ## Drift -/

/-- Two foreground ticks were taken, and the network did not go between them. -/
def TickedTwice (w : Watchdog) (hs : List Happening) : Prop :=
  ∃ xs m₁ ys m₂ zs, hs = xs ++ .turn m₁ .due :: (ys ++ .turn m₂ .due :: zs) ∧
    ((w.after xs).happen (.turn m₁ .due)).1.Stays ys

/-- A tick is remembered until the network goes. -/
lemma isSome_lastForegroundPing?_of_stays (hl : w.lives hs) (hst : w.Stays hs)
    (hp : w.core.lastForegroundPing?.isSome) : (w.after hs).core.lastForegroundPing?.isSome := by
  induction hs generalizing w with
  | nil => exact hp
  | cons h hs ih =>
    obtain ⟨ha, hl'⟩ := lives_cons.mp hl
    refine ih hl' hst.2 ?_
    cases ht : h.isTick with
    | true =>
      obtain ⟨m, rfl⟩ := Happening.isTick_iff.mp ht
      rw [(happen_due ha).1]
      rfl
    | false =>
      have hstays : (w.core.status.onLine && !(w.happen h).1.core.status.onLine) = false := by
        simpa using hst.1
      rw [lastForegroundPing?_happen ht, hstays]
      exact hp

/-- A drift that was found stays, or another one is found. -/
lemma isSome_foregroundDriftMs?_after (hl : w.lives hs)
    (hd : w.core.status.foregroundDriftMs?.isSome) :
    (w.after hs).core.status.foregroundDriftMs?.isSome := by
  refine after_induction (P := fun w => w.core.status.foregroundDriftMs?.isSome = true)
    (fun w h hd ha => ?_) hd hl
  cases ht : h.isTick with
  | true =>
    obtain ⟨m, rfl⟩ := Happening.isTick_iff.mp ht
    rw [(happen_due ha).2, Option.isSome_or, hd, Bool.or_true]
  | false => rwa [foregroundDriftMs?_happen ht]

/-- As long as the network is there it does not go. -/
lemma stays_of_onLine (hon : ∀ ps, ps <+: hs → (w.after ps).core.status.onLine = true) :
    w.Stays hs := by
  induction hs generalizing w with
  | nil => trivial
  | cons h hs ih =>
    refine ⟨fun _ => hon [h] ((List.prefix_cons_inj h).mpr List.nil_prefix), ih fun ps hps => ?_⟩
    exact hon (h :: ps) ((List.prefix_cons_inj h).mpr hps)

/-- **A foreground drift is there as soon as two ticks were taken between which the network did not
go, and not before.** -/
lemma isSome_foregroundDriftMs?_iff (hv : config.Valid)
    (hl : (launch config workerHeld).lives hs) :
    ((launch config workerHeld).after hs).core.status.foregroundDriftMs?.isSome ↔
      (launch config workerHeld).TickedTwice hs := by
  constructor
  · intro hd
    obtain ⟨d, hd⟩ := Option.isSome_iff_exists.mp hd
    obtain ⟨xs, m₁, ys, m₂, zs, heq, -, hon, -⟩ := foundForegroundDrift hv hl hd
    refine ⟨xs, m₁, ys, m₂, zs, heq, stays_of_onLine fun ps hps => ?_⟩
    have hps' := hon ps hps
    rwa [after_append, after_cons] at hps'
  · rintro ⟨xs, m₁, ys, m₂, zs, rfl, hst⟩
    obtain ⟨-, ha₁, hl'⟩ := lives_append_cons.mp hl
    obtain ⟨hly, ha₂, hlz⟩ := lives_append_cons.mp hl'
    rw [after_append, after_cons, after_append, after_cons]
    -- the first tick is still remembered when the second is taken
    have hlast := isSome_lastForegroundPing?_of_stays hly hst (by rw [(happen_due ha₁).1]; rfl)
    refine isSome_foregroundDriftMs?_after hlz ?_
    rw [(happen_due ha₂).2, Option.isSome_or, Option.isSome_map, hlast, Bool.true_or]

/-- A background drift is found from two ticks. -/
lemma FoundDrift.two_le {d : ℤ} (hd : w.FoundDrift hs d) :
    2 ≤ hs.countP Happening.isBackgroundTick := by
  obtain ⟨xs, m₁, ys, m₂, zs, rfl, -⟩ := hd
  rw [List.countP_append, List.countP_cons_of_pos rfl, List.countP_append,
    List.countP_cons_of_pos rfl]
  omega

/-! ## Snapshots -/

/-- The snapshots that are shown in the course of a life count no less than the status did before,
and none counts less than an earlier one. -/
lemma counters_snapshots (hl : w.lives hs) :
    (∀ s ∈ w.snapshots hs, w.core.status.counters ≤ s.counters) ∧
      (w.snapshots hs).Pairwise (·.counters ≤ ·.counters) := by
  induction hs generalizing w with
  | nil => exact ⟨fun _ hs => absurd hs List.not_mem_nil, .nil⟩
  | cons h hs ih =>
    obtain ⟨ha, hl'⟩ := lives_cons.mp hl
    obtain ⟨hle, hpair⟩ := ih hl'
    have hnext := (tallied_happen ha).counters_le
    -- what is shown now is the status
    have hnow : ∀ s ∈ (w.happen h).2.filterMap Effect.snapshot?,
        s = (w.happen h).1.core.status := by
      intro s hs
      obtain ⟨e, he, hsome⟩ := List.mem_filterMap.mp hs
      cases e with
      | publish t =>
        cases hsome
        exact eq_status_of_publish_mem_happen he
      | _ => cases hsome
    refine ⟨fun s hs => ?_, List.pairwise_append.mpr ⟨?_, hpair, fun s hs t ht => ?_⟩⟩
    · rcases List.mem_append.mp hs with hs | hs
      · rwa [hnow s hs]
      · exact hnext.trans (hle s hs)
    · rw [List.eq_replicate_of_mem hnow]
      exact List.pairwise_replicate.mpr (.inr le_rfl)
    · rw [hnow s hs]
      exact hle t ht

end Watchdog

/-! ## The channel -/

namespace Loopback

variable {l l' : Loopback} {hs : List Happening}

/-- In the course of a life a loopback channel is asked to send the heartbeats, and the event loop
learns whether it has taken them.  Meanwhile others may do anything with the channel that leaves its
record alone: they may connect and disconnect it, put in events of the server, or read these. -/
inductive Answers : Loopback → List Happening → Loopback → Prop
  | nil (l : Loopback) : Answers l [] l
  | takes {l l₁ l' : Loopback} {m : Moment} {hs : List Happening}
      (sends : l.emit m.wall Event.heartbeat none = .ok l₁) (rest : Answers l₁ hs l') :
      Answers l (.turn m (.emitted (.ok ())) :: hs) l'
  | refuses {l l' : Loopback} {m : Moment} {fault : Fault} {hs : List Happening}
      (sends : l.emit m.wall Event.heartbeat none = .error fault) (rest : Answers l hs l') :
      Answers l (.turn m (.emitted (.error fault)) :: hs) l'
  | other {l l' : Loopback} {h : Happening} {hs : List Happening} (taken : h.isTaken = false)
      (refused : h.isRefused = false) (rest : Answers l hs l') : Answers l (h :: hs) l'
  | used {l l₁ l' : Loopback} {hs : List Happening} (record : l₁.history = l.history)
      (rest : Answers l₁ hs l') : Answers l hs l'

/-- Nothing but heartbeats without a payload was recorded, and so many of them. -/
structure Holds (n : ℕ) (l : Loopback) : Prop where
  length : l.history.length = n
  heartbeat : ∀ e ∈ l.history, e.name = Event.heartbeat ∧ e.payload? = none

/-- A heartbeat that is taken is recorded. -/
lemma Holds.take {n : ℕ} (h : l.Holds n) (time : Timestamp) :
    Holds (n + 1) { l with history := ⟨Event.heartbeat, none, time⟩ :: l.history } := by
  refine ⟨congrArg Nat.succ h.length, fun e he => ?_⟩
  rcases List.mem_cons.mp he with rfl | he
  · exact ⟨rfl, rfl⟩
  · exact h.heartbeat e he

lemma Answers.holds {n : ℕ} (ha : Answers l hs l') (h : l.Holds n) :
    l'.Holds (n + hs.countP Happening.isTaken) := by
  induction ha generalizing n with
  | nil l => exact h
  | @takes l l₁ l' m hs sends rest ih =>
    have hsent : l₁ = { l with history := ⟨Event.heartbeat, none, m.wall⟩ :: l.history } := by
      rw [emit] at sends
      split at sends <;> cases sends
      rfl
    have hrest := ih (hsent ▸ h.take m.wall)
    rw [Nat.add_assoc, Nat.add_comm 1] at hrest
    rwa [List.countP_cons_of_pos rfl]
  | refuses sends rest ih => exact ih h
  | @other l l' x hs taken refused rest ih =>
    rw [List.countP_cons_of_neg (by simp [taken])]
    exact ih h
  | used record rest ih => exact ih ⟨record ▸ h.length, record ▸ h.heartbeat⟩

lemma Holds.emittedCount {n : ℕ} (h : l.Holds n) : l.emittedCount Event.heartbeat = n := by
  have hall : l.history.filter (·.name == Event.heartbeat) = l.history :=
    List.filter_eq_self.mpr fun e he => by simp [(h.heartbeat e he).1]
  rw [Loopback.emittedCount, hall, h.length]

end Loopback

namespace Watchdog

variable {config : HeartbeatConfig} {workerHeld : Bool} {hs : List Happening}

/-- **What every snapshot says of the past.**  Take any life with a valid configuration, and any
snapshot that is shown in it.

* The heartbeats sent and the failures together are as many as the foreground ticks that were taken,
  and as many as the heartbeats that were handed to the channel; those sent are the ones that the
  channel has taken.  The time of the last foreground tick is there as soon as there was one, and
  the foreground drift as soon as there were two between which the network did not go.
* The background ticks are those that were counted.  The time of the last of them is there as soon
  as there was one, and a background drift only if there were two.
* If the channel was a loopback channel, whatever was done with it meanwhile, then what it has
  recorded are just the heartbeats sent, none of them with a payload.

From one snapshot to another that is shown later no counter decreases. -/
theorem status_accounts (valid : config.validate = .ok ())
    (lives : (launch config workerHeld).lives hs) :
    let w := launch config workerHeld
    (∀ xs h zs s, hs = xs ++ h :: zs → Effect.publish s ∈ ((w.after xs).happen h).2 →
      let past := xs ++ [h]
      (s.heartbeatsSent + s.emitFailures = past.countP Happening.isTick ∧
        s.heartbeatsSent + s.emitFailures = (w.attempts past).length ∧
        s.heartbeatsSent = past.countP Happening.isTaken ∧
        (s.lastForegroundPing?.isSome ↔ 1 ≤ s.heartbeatsSent + s.emitFailures) ∧
        (s.foregroundDriftMs?.isSome ↔ w.TickedTwice past)) ∧
      (s.backgroundTicks = past.countP Happening.isBackgroundTick ∧
        (s.lastBackgroundPing?.isSome ↔ 1 ≤ s.backgroundTicks) ∧
        (s.backgroundDriftMs?.isSome → 2 ≤ s.backgroundTicks)) ∧
      ∀ l l' : Loopback, l.history = [] → l.Answers past l' →
        l'.emittedCount Event.heartbeat = s.heartbeatsSent ∧
          ∀ e ∈ l'.emitted, e.name = Event.heartbeat ∧ e.payload? = none) ∧
    (w.snapshots hs).Pairwise (·.counters ≤ ·.counters) := by
  intro w
  have hv := HeartbeatConfig.valid_of_validate valid
  refine ⟨?_, (counters_snapshots lives).2⟩
  intro xs h zs s hsplit hshown past
  rw [List.append_cons] at hsplit
  have hl : w.lives past := (lives_append.mp (hsplit ▸ lives)).1
  have hlast : w.after past = ((w.after xs).happen h).1 := after_concat w xs h
  -- what is shown is the status at the end of a turn, and no heartbeat is under way
  have hstatus : s = (w.after past).core.status :=
    hlast ▸ eq_status_of_publish_mem_happen hshown
  have hidle : (w.after past).core.emitting = false :=
    hlast ▸ emitting_of_publish_mem_happen (lives_append_cons.mp hl).2.1 hshown
  have hrecords : Status.Records past s := hstatus ▸ records hl
  have hticks : s.heartbeatsSent + s.emitFailures = past.countP Happening.isTick := by
    rw [hrecords.heartbeatsSent, hrecords.emitFailures, countP_isTick hl, hidle]
    rfl
  refine ⟨⟨hticks, ?_, hrecords.heartbeatsSent, ?_, ?_⟩, ⟨hrecords.backgroundTicks, ?_, ?_⟩, ?_⟩
  · rw [hticks, length_attempts hl]
  · rw [hticks, hrecords.lastForegroundPing?, List.any_eq_true, ← List.countP_pos_iff]
    exact Iff.rfl
  · rw [hstatus]
    exact isSome_foregroundDriftMs?_iff hv hl
  · rw [hrecords.backgroundTicks, hrecords.lastBackgroundPing?, List.any_eq_true,
      ← List.countP_pos_iff]
    exact Iff.rfl
  · intro hdrift
    rw [hstatus] at hdrift
    obtain ⟨d, hd⟩ := Option.isSome_iff_exists.mp hdrift
    rw [hrecords.backgroundTicks]
    exact (foundDrift hd).two_le
  · intro l l' hempty hanswers
    have hholds : l'.Holds s.heartbeatsSent := by
      have hfirst : l.Holds 0 := ⟨by rw [hempty]; rfl, by rw [hempty]; exact nofun⟩
      rw [hrecords.heartbeatsSent, ← Nat.zero_add (past.countP _)]
      exact hanswers.holds hfirst
    exact ⟨hholds.emittedCount, fun e he => hholds.heartbeat e (List.mem_reverse.mp he)⟩

/-- A heartbeat is sent, and a second one fails because the channel was disconnected meanwhile.  The
background clock ticks in between. -/
def halfDelivered : List Happening :=
  firstHeartbeat ++ [.turn ⟨millis 2000, .epoch, true⟩ .workerTick,
    .turn ⟨millis 4000, .epoch, true⟩ .due,
    .turn ⟨millis 4000, .epoch, true⟩ (.emitted (.error (.disconnected Loopback.name)))]

theorem status_accounts_half_delivered :
    let w := launch {} true
    HeartbeatConfig.validate {} = .ok () ∧ w.lives halfDelivered = true ∧
      ∃ s l', Effect.publish s ∈ ((w.after (halfDelivered.take 5)).happen
          (.turn ⟨millis 4000, .epoch, true⟩
            (.emitted (.error (.disconnected Loopback.name))))).2 ∧
        Loopback.Answers {} halfDelivered l' ∧ s.heartbeatsSent + s.emitFailures = 2 ∧
        l'.emittedCount Event.heartbeat = s.heartbeatsSent ∧ s.heartbeatsSent = 1 ∧
        w.TickedTwice halfDelivered ∧ (w.snapshots halfDelivered).length = 4 := by
  have hl : (launch {} true).lives halfDelivered = true := by decide
  -- the channel is disconnected before the second heartbeat
  let l' : Loopback :=
    { connected := false, history := [⟨Event.heartbeat, none, .epoch⟩] }
  have hl' : Loopback.Answers {} halfDelivered l' :=
    .other rfl rfl (.other rfl rfl (.takes rfl (.other rfl rfl (.other rfl rfl
      (.used (by rfl) (.refuses (by rfl) (.nil l')))))))
  let s := ((launch {} true).after halfDelivered).core.status
  have hs : Effect.publish s ∈ (((launch {} true).after (halfDelivered.take 5)).happen
      (.turn ⟨millis 4000, .epoch, true⟩
        (.emitted (.error (.disconnected Loopback.name))))).2 := .tail _ (.head _)
  have hd : s.foregroundDriftMs?.isSome := by decide
  obtain ⟨haccounts, -⟩ := status_accounts (by rfl) hl
  obtain ⟨⟨hticks, -, hsent, -, hdrift⟩, -, hchannel⟩ :=
    haccounts (halfDelivered.take 5) _ [] s rfl hs
  exact ⟨rfl, hl, s, l', hs, hl', hticks, (hchannel {} l' rfl hl').1, hsent, hdrift.mp hd,
    by decide⟩

end Watchdog

end LinkWatch
