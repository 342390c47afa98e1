/-
# The regime in force

Two of the things that the watchdog keeps say what its timers have to do: whether the network is
there, and the interval between heartbeats.  Together they are the regime.  An incident changes
the regime or leaves it as it is, and this depends on nothing but the regime and the bounds of the
configuration.

A change of the regime has two consequences, one for each timer.  The foreground timer is re-timed
at once, and the background clock is sent a command.
-/
import LinkWatch.Proofs.Config.Bounds
import LinkWatch.Proofs.Heartbeat.Deadline
import LinkWatch.Watchdog.Core

namespace LinkWatch

/-- The interval that an event of the server asks for, if it asks for one. -/
def Event.requestedMs? (e : Event) : Option UInt64 :=
  match Directive.ofEvent? e with
  | some (.ok (.setInterval intervalMs)) => some intervalMs
  | _ => none

namespace Incident

/-- The interval that an incident asks for, if it asks for one. -/
def requestedMs? : Incident → Option UInt64
  | .inbound e => e.requestedMs?
  | .setInterval intervalMs => some intervalMs
  | _ => none

/-- What an incident can mean for the regime. -/
inductive Kind : Incident → Prop
  | signal (online : Bool) : Kind (.signal online)
  | request {i : Incident} {n : UInt64} (h : i.requestedMs? = some n) : Kind i
  | other {i : Incident} (h : i.requestedMs? = none) (hs : ∀ online, i ≠ .signal online) : Kind i

lemma kind (i : Incident) : i.Kind := by
  cases h : i.requestedMs? with
  | some n => exact .request h
  | none =>
    cases i with
    | signal online => exact .signal online
    | _ => exact .other h (by simp)

end Incident

/-- What the timers have to follow. -/
structure Regime where
  /-- Whether the network is there. -/
  onLine : Bool
  /-- The interval between heartbeats, in milliseconds. -/
  intervalMs : UInt64
deriving DecidableEq

namespace Regime

/-- The regime before anything happened. -/
def initial (config : HeartbeatConfig) : Regime := ⟨false, config.intervalMs⟩

/-- The regime after an incident.  A signal says whether the network is there, and a request for
an interval sets the one within the bounds. -/
def after (config : HeartbeatConfig) (r : Regime) (i : Incident) : Regime :=
  match i with
  | .signal online => { r with onLine := online }
  | i =>
    match i.requestedMs? with
    | some intervalMs => { r with intervalMs := config.clamp intervalMs }
    | none => r

@[simp] lemma after_signal (config : HeartbeatConfig) (r : Regime) (online : Bool) :
    r.after config (.signal online) = { r with onLine := online } := rfl

lemma after_of_requestedMs? (config : HeartbeatConfig) (r : Regime) {i : Incident} {n : UInt64}
    (h : i.requestedMs? = some n) :
    r.after config i = { r with intervalMs := config.clamp n } := by
  cases i <;> simp_all [after, Incident.requestedMs?]

/-- Nothing but a signal or a request changes the regime. -/
lemma after_of_other (config : HeartbeatConfig) (r : Regime) {i : Incident}
    (h : i.requestedMs? = none) (hs : ∀ online, i ≠ .signal online) : r.after config i = r := by
  cases i <;> simp_all [after, Incident.requestedMs?]

/-- The interval in nanoseconds. -/
def interval (r : Regime) : ℕ := millis r.intervalMs.toNat

/-- The interval lies within the bounds. -/
def Bounded (config : HeartbeatConfig) (r : Regime) : Prop := config.InBounds r.intervalMs

variable {config : HeartbeatConfig} {r r' : Regime}

lemma bounded_initial (h : config.Valid) : (initial config).Bounded config := h.first

lemma Bounded.after (hr : r.Bounded config) (h : config.Valid) (i : Incident) :
    (r.after config i).Bounded config := by
  cases i.kind with
  | signal online => exact hr
  | request hi =>
    rw [after_of_requestedMs? config r hi]
    exact HeartbeatConfig.inBounds_clamp h.one_le_min h.min_le_max _
  | other hi hs => rwa [after_of_other config r hi hs]

lemma Bounded.nanosPerMilli_le (hr : r.Bounded config) (h : config.Valid) :
    nanosPerMilli ≤ r.interval :=
  nanosPerMilli_le_millis (hr.one_le h)

/-! ## The foreground timer -/

/-- A timer takes the interval of the new regime as its period, if it is another one. -/
def repace (now : ℕ) (r r' : Regime) (t : Timer) : Timer :=
  if r'.intervalMs = r.intervalMs then t else t.setPeriod now r'.interval

/-- What becomes of a timer that follows the regime when the regime changes: it takes the new
interval as its period, and then it is started or stopped. -/
def retime (now : ℕ) (r r' : Regime) (t : Timer) : Timer :=
  if r'.onLine = r.onLine then r.repace now r' t
  else if r'.onLine then (r.repace now r' t).start now
  else (r.repace now r' t).stop

@[simp] lemma retime_self (now : ℕ) (r : Regime) (t : Timer) : r.retime now r t = t := by
  simp [retime, repace]

/-! ## The background clock -/

/-- The commands by which the background clock learns of a change of the regime: to start when the
network came, to start again when the interval changed while the network is there, and to stop when
the network went. -/
def commands (r r' : Regime) : List ClockCommand :=
  match r.onLine, r'.onLine with
  | false, true => [.start r'.intervalMs]
  | true, true => if r'.intervalMs = r.intervalMs then [] else [.start r'.intervalMs]
  | true, false => [.stop]
  | false, false => []

@[simp] lemma commands_self (r : Regime) : r.commands r = [] := by
  rw [commands]
  split <;> simp_all

end Regime

/-- A timer runs while the network is there, at the interval in force. -/
structure Timer.Follows (t : Timer) (r : Regime) : Prop where
  isRunning : t.isRunning = r.onLine
  period : t.period = r.interval

namespace Timer.Follows

variable {t : Timer} {r r' : Regime}

lemma repace (h : t.Follows r) (now : ℕ) (hr' : nanosPerMilli ≤ r'.interval) :
    (r.repace now r' t).Follows { r' with onLine := r.onLine } := by
  rw [Regime.repace]
  split
  next heq =>
    refine ⟨h.isRunning, h.period.trans ?_⟩
    rw [Regime.interval, Regime.interval, heq]
  next => exact ⟨by rw [isRunning_setPeriod, h.isRunning], period_setPeriod hr'⟩

/-- A timer that is re-timed follows the new regime. -/
lemma retime (h : t.Follows r) (now : ℕ) (hr' : nanosPerMilli ≤ r'.interval) :
    (r.retime now r' t).Follows r' := by
  have h1 := h.repace now hr'
  rw [Regime.retime]
  split
  next heq => exact ⟨h1.isRunning.trans heq.symm, h1.period⟩
  next =>
    split
    next hon => exact ⟨by rw [isRunning_start, hon], by rw [period_start]; exact h1.period⟩
    next hoff => exact ⟨(Bool.eq_false_iff.mpr hoff).symm, h1.period⟩

/-- A change of the regime schedules the next tick one interval later, or not at all. -/
lemma deadline?_retime (h : t.Follows r) (now : ℕ) (hr' : nanosPerMilli ≤ r'.interval)
    (hne : r' ≠ r) :
    (r.retime now r' t).deadline? = if r'.onLine then some (now + r'.interval) else none := by
  have h1 := h.repace now hr'
  have h2 := h.retime now hr'
  cases hon : r'.onLine with
  | false => exact isRunning_eq_false_iff.mp (h2.isRunning.trans hon)
  | true =>
    rw [if_pos rfl, Regime.retime]
    split
    next heq =>
      -- the network stays, so it is the interval that changed
      have hI : r'.intervalMs ≠ r.intervalMs := fun hI => hne (by
        cases r; cases r'; simp_all)
      rw [Regime.repace, if_neg hI]
      exact deadline?_setPeriod hr' (by rw [h.isRunning, ← heq, hon])
    next heq =>
      have hoff : r.onLine = false := by
        rw [hon] at heq
        simpa using heq
      rw [deadline?_start (h1.isRunning.trans hoff), h1.period]
      rfl

end Timer.Follows

end LinkWatch
