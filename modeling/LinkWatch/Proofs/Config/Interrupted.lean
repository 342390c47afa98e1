/-
# Settings that cannot be applied

The settings of a layer are applied one by one.  When one of them cannot be read, or when the
configuration turns out to be invalid at the end, the call fails, and the settings that were
applied before stay in force: nothing is taken back.  So a call that fails applies a part of its
layer, and which part depends on where it failed (`Config.applied_before_failure`).
-/
import LinkWatch.Proofs.Config.Effective
import LinkWatch.Proofs.Config.Layers

namespace LinkWatch.Config

variable {α : Type} {c d : Config} {fault : ConfigFault}

/-! ## Changes that fail -/

namespace Change

/-- One change after another fails when the first one does, or the second one where the first one
has led. -/
lemma andThen_eq_error {first second : Change} :
    first.andThen second c = (d, .error fault) ↔
      first c = (d, .error fault) ∨ ∃ e, first c = (e, .ok ()) ∧ second e = (d, .error fault) := by
  unfold andThen
  split
  next e h => simp [h]
  next e fault' h => simp [h]

/-- A field that cannot be set is left as it is, and so is everything else. -/
lemma set_eq_error {value? : Option String} {read : String → Except ConfigFault α}
    {put : α → Config → Config} :
    set value? read put c = (d, .error fault) ↔
      (∃ raw, value? = some raw ∧ read raw = .error fault) ∧ d = c := by
  unfold set
  cases value? with
  | none => simp
  | some raw => cases hread : read raw <;> simp [hread, eq_comm, and_comm]

/-- A text can always be set. -/
lemma set_text_ne_error {value? : Option String} {put : String → Config → Config} :
    set value? .ok put c ≠ (d, .error fault) := by
  simp [set_eq_error]

lemma keep_ne_error : keep c ≠ (d, .error fault) := by
  simp [keep]

end Change

lemma check_eq_error :
    check c = (d, .error fault) ↔ c.heartbeat.validate = .error fault ∧ d = c := by
  simp [check, eq_comm, and_comm]

/-- The interval that cannot be read is reported as it was given. -/
lemma readInterval_eq_error {raw : String} :
    readInterval raw = .error fault ↔
      parseWord? (Text.trim raw) = none ∧ fault = .intervalNotWhole raw := by
  unfold readInterval
  cases parseWord? (Text.trim raw) <;> simp [eq_comm]

/-! ## What was applied -/

/-- What a layer gives is no change just if it is in force already. -/
lemma Layer.applyTo_eq_iff {l : Layer} : l.applyTo c = c ↔ l.InForce c := by
  constructor
  · intro h
    rw [← h]
    exact l.inForce_applyTo c
  · exact InForce.applyTo_eq

/-- Applying the environment fails at its interval or at its mode. -/
lemma applyEnvironment_eq_error {lookup : String → Option String} :
    applyEnvironment lookup c = (d, .error fault) ↔
      ((∃ raw, lookup "NETWATCH_HEARTBEAT_INTERVAL_MS" = some raw ∧
          parseWord? (Text.trim raw) = none ∧ fault = .intervalNotWhole raw) ∧
        d = Layer.applyTo ⟨lookup "NETWATCH_SERVER_URL", none, none, none⟩ c) ∨
      (Readable (lookup "NETWATCH_HEARTBEAT_INTERVAL_MS") (fun raw => parseWord? (Text.trim raw)) ∧
        (∃ raw, lookup "NETWATCH_BACKGROUND_CLOCK" = some raw ∧
          ClockMode.parse raw = .error fault) ∧
        d = Layer.applyTo ⟨lookup "NETWATCH_SERVER_URL", none,
          (Layer.ofVariables lookup).intervalMs?, none⟩ c) := by
  simp only [applyEnvironment, Change.all, Change.andThen_eq_error, Change.set_text_ne_error,
    Change.keep_ne_error, Change.set_text_eq_ok]
  simp only [Change.set_eq_error, Change.set_eq_ok, readInterval_eq_error, toOption_readInterval,
    false_or, or_false, exists_eq_left, and_false, exists_false, ← Layer.applyTo_eq]
  constructor
  · rintro (hinterval | ⟨e, ⟨hinterval, rfl⟩, hclock, rfl⟩)
    · exact .inl hinterval
    · exact .inr ⟨hinterval, hclock, rfl⟩
  · rintro (hinterval | ⟨hinterval, hclock, rfl⟩)
    · exact .inl hinterval
    · exact .inr ⟨_, ⟨hinterval, rfl⟩, hclock, rfl⟩

/-- Applying the command line fails at its mode or at the end. -/
lemma applyArguments_eq_error {a : Arguments} :
    applyArguments a c = (d, .error fault) ↔
      ((∃ raw, a.clock? = some raw ∧ ClockMode.parse raw = .error fault) ∧
        d = Layer.applyTo ⟨a.url?, a.target?, a.intervalMs?, none⟩ c) ∨
      (Readable a.clock? (fun raw => (ClockMode.parse raw).toOption) ∧
        d = (Layer.ofArguments a).applyTo c ∧ d.heartbeat.validate = .error fault) := by
  have hok (d e : Config) :
      ((a.intervalMs?.map fun n => d.setInterval n).getD d, (.ok () : Except ConfigFault Unit)) =
        (e, .ok ()) ↔ e = putIn setInterval a.intervalMs? d := by
    simp [putIn, eq_comm]
  have hno (d e : Config) :
      ((a.intervalMs?.map fun n => d.setInterval n).getD d, (.ok () : Except ConfigFault Unit)) ≠
        (e, .error fault) := by
    simp
  simp only [applyArguments, Change.all, Change.andThen_eq_error, Change.set_text_ne_error,
    Change.keep_ne_error, Change.set_text_eq_ok, check_eq_error, hok, hno]
  simp only [Change.set_eq_error, Change.set_eq_ok, false_or, or_false, exists_eq_left, and_false,
    exists_false, ← Layer.applyTo_eq_of_arguments]
  constructor
  · rintro (hclock | ⟨e, ⟨hclock, rfl⟩, hvalid, rfl⟩)
    · exact .inl hclock
    · exact .inr ⟨hclock, rfl, hvalid⟩
  · rintro (hclock | ⟨hclock, rfl, hvalid⟩)
    · exact .inl hclock
    · exact .inr ⟨_, ⟨hclock, rfl⟩, hvalid, rfl⟩

/-- **What a call that fails has applied.**  Take any configuration, environment and command line:

* applying the environment fails in two ways.  Either the interval cannot be read, which is
  reported as it was given, and then the address of the server was applied and nothing else.  Or the
  interval can be read and the mode of the clock cannot, and then the address and the interval were
  applied and nothing else;
* applying the command line fails in two ways.  Either the mode of the clock cannot be read, and
  then everything else was applied.  Or it can, and the configuration is invalid with all of the
  command line, and then all of it was applied;
* the configuration is what it was before just if all that was applied was in force already. -/
theorem applied_before_failure (c : Config) (lookup : String → Option String) (a : Arguments) :
    (∀ d fault, applyEnvironment lookup c = (d, .error fault) ↔
      ((∃ raw, lookup "NETWATCH_HEARTBEAT_INTERVAL_MS" = some raw ∧
          parseWord? (Text.trim raw) = none ∧ fault = .intervalNotWhole raw) ∧
        d = Layer.applyTo ⟨lookup "NETWATCH_SERVER_URL", none, none, none⟩ c) ∨
      (Readable (lookup "NETWATCH_HEARTBEAT_INTERVAL_MS") (fun raw => parseWord? (Text.trim raw)) ∧
        (∃ raw, lookup "NETWATCH_BACKGROUND_CLOCK" = some raw ∧
          ClockMode.parse raw = .error fault) ∧
        d = Layer.applyTo ⟨lookup "NETWATCH_SERVER_URL", none,
          (Layer.ofVariables lookup).intervalMs?, none⟩ c)) ∧
    (∀ d fault, applyArguments a c = (d, .error fault) ↔
      ((∃ raw, a.clock? = some raw ∧ ClockMode.parse raw = .error fault) ∧
        d = Layer.applyTo ⟨a.url?, a.target?, a.intervalMs?, none⟩ c) ∨
      (Readable a.clock? (fun raw => (ClockMode.parse raw).toOption) ∧
        d = (Layer.ofArguments a).applyTo c ∧ d.heartbeat.validate = .error fault)) ∧
    ∀ l : Layer, l.applyTo c = c ↔ l.InForce c := by
  refine ⟨?_, ?_, ?_⟩
  · intro d fault
    exact applyEnvironment_eq_error
  · intro d fault
    exact applyArguments_eq_error
  · intro l
    exact Layer.applyTo_eq_iff

/-- A good address, and an interval that is no number. -/
def halfGood : Variables :=
  [("NETWATCH_SERVER_URL", "ws://a"), ("NETWATCH_HEARTBEAT_INTERVAL_MS", "soon")]

/-- A call that fails may have changed the configuration. -/
theorem half_applied :
    (¬∀ d fault, applyEnvironment halfGood.get? {} = (d, .error fault) → d = {}) ∧
      ¬∀ d fault, applyArguments { url? := some "ws://a", clock? := some "fiber" } {} =
        (d, .error fault) → d = {} := by
  constructor
  · intro h
    have heq := h { serverUrl? := some "ws://a" } (.intervalNotWhole "soon") rfl
    exact absurd heq (by decide)
  · intro h
    have heq := h { serverUrl? := some "ws://a" } (.unknownClockMode "fiber") rfl
    exact absurd heq (by decide)

end LinkWatch.Config
