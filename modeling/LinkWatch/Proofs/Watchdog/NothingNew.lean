/-
# What says nothing new

A probe may repeat its signal, a server may repeat its directive or send events that are none, and
many different requests come to the interval in force once they are moved into the bounds.  All
this says nothing new (`Core.ignores`), and the event loop does nothing about it but write to the
log: its state stays as it was, timer and snapshot included (`Core.step_of_ignores`).

Therefore turns that say nothing new can be put into a life, or left out of it, wherever the loop
can take them, and nobody sees a difference (`Watchdog.nothing_new_is_invisible`).
-/
import LinkWatch.Proofs.Watchdog.Commands
import LinkWatch.Proofs.Watchdog.Consistency
import LinkWatch.Proofs.Watchdog.Foreground

namespace LinkWatch

namespace Effect

/-- Whether an effect only writes to the log. -/
def isLog : Effect → Bool
  | .log _ => true
  | _ => false

/-- The snapshot that an effect shows, if it shows one. -/
def snapshot? : Effect → Option Status
  | .publish s => some s
  | _ => none

variable {es : List Effect}

/-- Nothing that does not look at the log finds anything in it. -/
lemma filterMap_of_isLog {α : Type} {f : Effect → Option α} (hf : ∀ line, f (.log line) = none)
    (h : es.all isLog) : es.filterMap f = [] := by
  refine List.filterMap_eq_nil_iff.mpr fun e he => ?_
  have hlog := List.all_eq_true.mp h e he
  cases e with
  | log line => exact hf line
  | _ => cases hlog

lemma countP_isEmit_of_isLog (h : es.all isLog) : es.countP isEmit = 0 := by
  refine List.countP_eq_zero.mpr fun e he => ?_
  have hlog := List.all_eq_true.mp h e he
  cases e with
  | log line => exact Bool.false_ne_true
  | _ => cases hlog

end Effect

namespace Core

/-- Whether an incident says nothing new: a signal that the network is as it was, an event that is
no directive, a request that comes to the interval in force, and the news that events were missed
or that a source was closed. -/
def ignores (c : Core) : Incident → Bool
  | .signal online => online == c.status.onLine
  | .inbound e =>
    match Directive.ofEvent? e with
    | none => true
    | some (.ok (.setInterval n)) => c.config.clamp n == c.status.intervalMs
    | some (.error _) => false
  | .setInterval n => c.config.clamp n == c.status.intervalMs
  | .missed _ | .signalsClosed | .inboundClosed => true
  | _ => false

variable {m : Moment} {c : Core} {i : Incident} {n : UInt64}

/-! ## Turns -/

/-- A request that comes to the interval in force is only written to the log. -/
lemma applyInterval_of_clamp_eq (h : c.config.clamp n = c.status.intervalMs) :
    (c.applyInterval m n).1 = c ∧ (c.applyInterval m n).2.all Effect.isLog := by
  have hkept : c.changeInterval m (c.config.clamp n) =
      (c, [.log (.unchangedInterval (c.config.clamp n))]) := if_pos h
  simp only [applyInterval, hkept, true_and]
  split <;> rfl

lemma handle_of_ignores (h : c.ignores i) :
    (c.handle m i).1 = c ∧ (c.handle m i).2.all Effect.isLog := by
  cases i with
  | signal online =>
    rw [handle, applySignal, if_pos (beq_iff_eq.mp h)]
    exact ⟨rfl, rfl⟩
  | inbound e =>
    revert h
    rw [ignores, handle, handleEvent]
    cases Directive.ofEvent? e with
    | none => exact fun _ => ⟨rfl, rfl⟩
    | some d =>
      cases d with
      | ok d => exact fun h => applyInterval_of_clamp_eq (beq_iff_eq.mp h)
      | error fault => exact fun h => absurd h Bool.false_ne_true
  | setInterval n => exact applyInterval_of_clamp_eq (beq_iff_eq.mp h)
  | signalsClosed | missed | inboundClosed => exact ⟨rfl, rfl⟩
  | _ => cases h

/-- A snapshot that is up to date is not shown again. -/
lemma publish_of_shown (hshown : c.shown = c) (hidle : c.emitting = false) :
    c.publish = (c, []) := by
  have hsame : c.publish.1 = c := by
    rwa [shown, if_neg (by simp [hidle])] at hshown
  have hcurrent : c.snapshot = c.published := congrArg published hsame
  have hquiet : c.publish.2 = [] := if_pos hcurrent
  exact Prod.ext hsame hquiet

/-- **About what says nothing new, nothing is done but to write to the log.** -/
lemma step_of_ignores (hshown : c.shown = c) (hidle : c.emitting = false) (h : c.ignores i) :
    (c.step m i).1 = c ∧ (c.step m i).2.all Effect.isLog := by
  obtain ⟨hsame, hlog⟩ := handle_of_ignores (m := m) h
  rw [step_eq, hsame, if_neg (by simp [hidle]), publish_of_shown hshown hidle, List.append_nil]
  exact ⟨rfl, hlog⟩

end Core

namespace Watchdog

variable {config : HeartbeatConfig} {workerHeld : Bool} {w : Watchdog} {m : Moment} {i : Incident}
  {hs ks : List Happening}

/-- The snapshots that are shown in the course of a life. -/
def snapshots (w : Watchdog) : List Happening → List Status
  | [] => []
  | h :: hs => (w.happen h).2.filterMap Effect.snapshot? ++ (w.happen h).1.snapshots hs

/-- A life into which turns were put that say nothing new when they are taken. -/
inductive Padded : Watchdog → List Happening → List Happening → Prop
  | nil (w : Watchdog) : Padded w [] []
  | keep {w : Watchdog} {h : Happening} {hs ks : List Happening}
      (rest : Padded (w.happen h).1 hs ks) : Padded w (h :: hs) (h :: ks)
  | put {w : Watchdog} {m : Moment} {i : Incident} {hs ks : List Happening}
      (allowed : w.allows (.turn m i)) (ignored : w.core.ignores i)
      (rest : Padded (w.happen (.turn m i)).1 hs ks) : Padded w hs (.turn m i :: ks)

/-! ## Happenings -/

/-- What the event loop can ignore is taken between heartbeats. -/
lemma emitting_of_ignores (ha : w.allows (.turn m i)) (hi : w.core.ignores i) :
    w.core.emitting = false := by
  have haw := (allows_turn_iff.mp ha).2
  cases i with
  | signal | signalsClosed | inbound | missed | inboundClosed | setInterval =>
    exact (Bool.not_eq_true' _).mp haw
  | _ => cases hi

lemma happen_of_ignores (hw : w.Settled) (ha : w.allows (.turn m i)) (hi : w.core.ignores i) :
    (w.happen (.turn m i)).1 = w ∧ (w.happen (.turn m i)).2.all Effect.isLog := by
  obtain ⟨hsame, hlog⟩ := Core.step_of_ignores (m := m) (hw (allows_turn_iff.mp ha).1)
    (emitting_of_ignores ha hi) hi
  refine ⟨?_, hlog⟩
  show ({ w with core := (w.core.step m i).1 } : Watchdog) = w
  rw [hsame]

lemma Settled.after (hw : w.Settled) (hl : w.lives hs) : (w.after hs).Settled :=
  after_induction (fun _ _ hw _ => hw.happen) hw hl

/-! ## Lives -/

/-- **Turns that say nothing new make no difference to a life.** -/
lemma Padded.same (hpad : Padded w hs ks) (hw : w.Settled) :
    (w.lives ks ↔ w.lives hs) ∧ w.after ks = w.after hs ∧ w.attempts ks = w.attempts hs ∧
      w.sent ks = w.sent hs ∧ w.snapshots ks = w.snapshots hs ∧ w.notices ks = w.notices hs := by
  induction hpad with
  | nil w => exact ⟨Iff.rfl, rfl, rfl, rfl, rfl, rfl⟩
  | keep rest ih =>
    obtain ⟨hlives, hafter, hattempts, hsent, hsnapshots, hnotices⟩ := ih hw.happen
    rw [lives_cons, lives_cons, hlives, after_cons, after_cons, hafter, attempts, attempts,
      hattempts, sent, sent, hsent, snapshots, snapshots, hsnapshots, notices, notices, hnotices]
    exact ⟨Iff.rfl, rfl, rfl, rfl, rfl, rfl⟩
  | @put w m i hs ks allowed ignored rest ih =>
    obtain ⟨hsame, hlog⟩ := happen_of_ignores hw allowed ignored
    rw [hsame] at ih
    obtain ⟨hlives, hafter, hattempts, hsent, hsnapshots, hnotices⟩ := ih hw
    -- the log is all that the turn has left behind
    have hcommands := Effect.filterMap_of_isLog (f := Effect.command?) (fun _ => rfl) hlog
    have hshown := Effect.filterMap_of_isLog (f := Effect.snapshot?) (fun _ => rfl) hlog
    have htold := Effect.filterMap_of_isLog (f := Effect.notice?) (fun _ => rfl) hlog
    have hemits := Effect.countP_isEmit_of_isLog hlog
    refine ⟨?_, ?_, ?_, ?_, ?_, ?_⟩
    · rw [lives_cons, hsame]
      exact (and_iff_right allowed).trans hlives
    · rw [after_cons, hsame, hafter]
    · rw [attempts, hemits, hsame, hattempts]
      rfl
    · rw [sent, hcommands, hsame, hsent, List.nil_append]
    · rw [snapshots, hshown, hsame, hsnapshots, List.nil_append]
    · rw [notices, htold, hsame, hnotices, List.nil_append]

/-- **What says nothing new is invisible.**  Take any life up to some point.

* If the event loop then deals with an incident that says nothing new, the state of the watchdog is
  afterwards what it was, and nothing was done but to write to the log: no heartbeat was sent, no
  command, no notice, and no snapshot was shown.
* If such turns are put into the life, any number of them at any points between heartbeats, the
  result is a life as well.  The heartbeats are handed to the channel at the same instants, the
  background clock is sent the same commands, the same snapshots are shown, the indicators are told
  the same, and the watchdog ends in the same state. -/
theorem nothing_new_is_invisible (lives : (launch config workerHeld).lives hs) :
    let w := launch config workerHeld
    (∀ m i, (w.after hs).allows (.turn m i) → (w.after hs).core.ignores i →
      ((w.after hs).happen (.turn m i)).1 = w.after hs ∧
      ∀ e ∈ ((w.after hs).happen (.turn m i)).2, ∃ line, e = .log line) ∧
    ∀ ks, Padded w hs ks →
      w.lives ks ∧ w.attempts ks = w.attempts hs ∧ w.sent ks = w.sent hs ∧
        w.snapshots ks = w.snapshots hs ∧ w.notices ks = w.notices hs ∧
        w.after ks = w.after hs := by
  intro w
  have hw := settled_launch config workerHeld
  refine ⟨fun m i ha hi => ?_, fun ks hpad => ?_⟩
  · obtain ⟨hsame, hlog⟩ := happen_of_ignores (hw.after lives) ha hi
    refine ⟨hsame, fun e he => ?_⟩
    have hline := List.all_eq_true.mp hlog e he
    cases e with
    | log line => exact ⟨line, rfl⟩
    | _ => cases hline
  · obtain ⟨hlives, hafter, hattempts, hsent, hsnapshots, hnotices⟩ := hpad.same hw
    exact ⟨hlives.mpr lives, hattempts, hsent, hsnapshots, hnotices, hafter⟩

/-- The first heartbeat, with much that says nothing new: a signal before the network comes and one
after, an event that is no directive, a directive that is repeated, and a request for an interval
that is longer than the longest. -/
def talkative : List Happening :=
  [.turn ⟨0, .epoch, true⟩ (.signal false),
    .turn ⟨0, .epoch, true⟩ (.signal true),
    .turn ⟨millis 500, .epoch, true⟩ (.signal true),
    .turn ⟨millis 1000, .epoch, true⟩ (.inbound ⟨"greeting", .null⟩),
    .turn ⟨millis 1500, .epoch, true⟩ (.inbound ⟨Event.setInterval, .int 2⟩),
    .turn ⟨millis 2000, .epoch, true⟩ .due,
    .turn ⟨millis 2000, .epoch, true⟩ (.emitted (.ok ())),
    .turn ⟨millis 2500, .epoch, true⟩ (.setInterval 9000)]

theorem talkative_as_first_heartbeat :
    let w := launch { maxIntervalMs := 2000 } true
    w.lives firstHeartbeat = true ∧ w.Padded firstHeartbeat talkative ∧
      ((w.after firstHeartbeat).happen
        (.turn ⟨millis 2500, .epoch, true⟩ (.setInterval 9000))).1 = w.after firstHeartbeat ∧
      w.lives talkative = true ∧ w.attempts talkative = [millis 2000] ∧
      w.sent talkative = [.start 2000] ∧ (w.snapshots talkative).length = 2 := by
  have hl : (launch { maxIntervalMs := 2000 } true).lives firstHeartbeat = true := by decide
  have hpad : (launch { maxIntervalMs := 2000 } true).Padded firstHeartbeat talkative := by
    unfold firstHeartbeat talkative
    exact .put rfl rfl (.keep (.put rfl rfl (.put rfl rfl (.put rfl (by decide +kernel)
      (.keep (.keep (.put (by decide +kernel) (by decide +kernel) (.nil _))))))))
  obtain ⟨hstep, hlife⟩ := nothing_new_is_invisible hl
  obtain ⟨hlives, hattempts, hsent, hsnapshots, -, -⟩ := hlife _ hpad
  exact ⟨hl, hpad, (hstep _ _ rfl rfl).1, hlives, hattempts, hsent,
    congrArg List.length hsnapshots⟩

end Watchdog

end LinkWatch
