/-
# Files with some of the settings

A configuration file need not give every setting.  It is an object with two sections, each an
object of its own, and whatever is left out, be it a setting or a whole section, has its default.
-/
import LinkWatch.Config.Json
import LinkWatch.Proofs.Json.Records

namespace LinkWatch

open Json (Value)
open Json.Decoder (reads_bool reads_oneOf reads_optional_none reads_optional_some reads_string
  reads_uint64)
open Json.Field (reads_of)

variable {depth : ℕ}

/-! ## Single settings -/

lemma ClockMode.reads (m : ClockMode) : ClockMode.decoder.Reads depth m.toJson m := by
  cases m <;> exact reads_oneOf rfl

/-- A text that may be absent is read as it is, whether it is there or not. -/
lemma reads_text (s? : Option String) :
    (Json.Decoder.optional .string).Reads depth (.orNull .string s?) s? := by
  cases s? with
  | none => exact reads_optional_none
  | some s =>
    refine reads_optional_some (reads_string s) fun cs hcs => ?_
    cases hcs
    simp [Json.stringChars_eq]

/-! ## Members that may be left out -/

section Given

variable {β : Type} {name : String} {value : β → Value} {members : List (String × Value)}

/-- A member that is given, or left out. -/
def given (name : String) (value : β → Value) (b? : Option β) : List (String × Value) :=
  (b?.map fun b => (name, value b)).toList

lemma sublist_given {names : List String} (b? : Option β)
    (h : (members.map (·.1)).Sublist names) :
    ((given name value b? ++ members).map (·.1)).Sublist (name :: names) := by
  cases b? with
  | none => exact h.cons name
  | some b => exact h.cons_cons name

/-- A record is filled by a member that may be left out, and then by the members after it. -/
lemma Json.Record.Fills.given {σ α : Type} {r : Record σ α} {f : Field σ} {set : β → σ → σ}
    {s s' : σ} (b? : Option β) (field : r.field? name = some f)
    (reads : ∀ b, f.update.Reads depth (value b) (set b))
    (rest : r.Fills depth ((b?.map fun b => set b s).getD s) members s') :
    r.Fills depth s (given name value b? ++ members) s' := by
  cases b? with
  | none => exact rest
  | some b => exact .cons field (reads b) rest

end Given

/-! ## The section of the heartbeat -/

/-- The settings of the heartbeat that a file gives. -/
structure HeartbeatSection where
  intervalMs? : Option UInt64 := none
  minIntervalMs? : Option UInt64 := none
  maxIntervalMs? : Option UInt64 := none
  clock? : Option ClockMode := none
  logDrift? : Option Bool := none

namespace HeartbeatSection

def members (h : HeartbeatSection) : List (String × Value) :=
  [given "heartbeat_interval_ms" word h.intervalMs?, given "min_interval_ms" word h.minIntervalMs?,
    given "max_interval_ms" word h.maxIntervalMs?,
    given "background_clock" ClockMode.toJson h.clock?,
    given "log_drift" Value.bool h.logDrift?].flatten

/-- The settings that are given, with the defaults of the others. -/
def config (h : HeartbeatSection) : HeartbeatConfig where
  intervalMs := h.intervalMs?.getD 2000
  minIntervalMs := h.minIntervalMs?.getD 100
  maxIntervalMs := h.maxIntervalMs?.getD 3600000
  clock := h.clock?.getD .thread
  logDrift := h.logDrift?.getD true

lemma nodup_members (h : HeartbeatSection) : (h.members.map (·.1)).Nodup := by
  have hnames : (h.members.map (·.1)).Sublist ["heartbeat_interval_ms", "min_interval_ms",
      "max_interval_ms", "background_clock", "log_drift"] :=
    sublist_given _ <| sublist_given _ <| sublist_given _ <| sublist_given _ <| sublist_given _ <|
      List.Sublist.slnil
  exact hnames.nodup (by decide)

lemma reads (h : HeartbeatSection) :
    HeartbeatConfig.record.decoder.Reads (depth + 1) (.object h.members) h.config := by
  have hfills : HeartbeatConfig.record.Fills depth {} h.members h.config := by
    refine .given h.intervalMs? rfl (fun n => reads_of (reads_uint64 n)) <|
      .given h.minIntervalMs? rfl (fun n => reads_of (reads_uint64 n)) <|
      .given h.maxIntervalMs? rfl (fun n => reads_of (reads_uint64 n)) <|
      .given h.clock? rfl (fun mode => reads_of mode.reads) <|
      .given h.logDrift? rfl (fun b => reads_of (reads_bool b)) ?_
    obtain ⟨intervalMs?, minIntervalMs?, maxIntervalMs?, clock?, logDrift?⟩ := h
    cases intervalMs? <;> cases minIntervalMs? <;> cases maxIntervalMs? <;> cases clock? <;>
      cases logDrift? <;> exact .nil _
  exact hfills.reads rfl h.nodup_members

end HeartbeatSection

/-! ## The section of the probe -/

/-- The settings of the probe that a file gives. The target may be given as `null`. -/
structure ProbeSection where
  target? : Option (Option String) := none
  pollIntervalMs? : Option UInt64 := none
  timeoutMs? : Option UInt64 := none

namespace ProbeSection

def members (p : ProbeSection) : List (String × Value) :=
  [given "target" (Value.orNull .string) p.target?, given "poll_interval_ms" word p.pollIntervalMs?,
    given "timeout_ms" word p.timeoutMs?].flatten

/-- The settings that are given, with the defaults of the others. -/
def config (p : ProbeSection) : ProbeConfig where
  target? := p.target?.getD none
  pollIntervalMs := p.pollIntervalMs?.getD 5000
  timeoutMs := p.timeoutMs?.getD 2000

lemma nodup_members (p : ProbeSection) : (p.members.map (·.1)).Nodup := by
  have hnames : (p.members.map (·.1)).Sublist ["target", "poll_interval_ms", "timeout_ms"] :=
    sublist_given _ <| sublist_given _ <| sublist_given _ <| List.Sublist.slnil
  exact hnames.nodup (by decide)

lemma reads (p : ProbeSection) :
    ProbeConfig.record.decoder.Reads (depth + 1) (.object p.members) p.config := by
  have hfills : ProbeConfig.record.Fills depth {} p.members p.config := by
    refine .given p.target? rfl (fun s? => reads_of (reads_text s?)) <|
      .given p.pollIntervalMs? rfl (fun n => reads_of (reads_uint64 n)) <|
      .given p.timeoutMs? rfl (fun n => reads_of (reads_uint64 n)) ?_
    obtain ⟨target?, pollIntervalMs?, timeoutMs?⟩ := p
    cases target? <;> cases pollIntervalMs? <;> cases timeoutMs? <;> exact .nil _
  exact hfills.reads rfl p.nodup_members

end ProbeSection

/-! ## The file -/

/-- What a file gives. The address of the server may be given as `null`. -/
structure ConfigFile where
  serverUrl? : Option (Option String) := none
  heartbeat? : Option HeartbeatSection := none
  probe? : Option ProbeSection := none

namespace ConfigFile

def members (f : ConfigFile) : List (String × Value) :=
  [given "server_url" (Value.orNull .string) f.serverUrl?,
    given "watchdog" (fun h => Value.object h.members) f.heartbeat?,
    given "connectivity" (fun p => Value.object p.members) f.probe?].flatten

/-- What is given, with the defaults of the rest. -/
def config (f : ConfigFile) : Config where
  serverUrl? := f.serverUrl?.getD none
  heartbeat := (f.heartbeat?.map HeartbeatSection.config).getD {}
  probe := (f.probe?.map ProbeSection.config).getD {}

lemma nodup_members (f : ConfigFile) : (f.members.map (·.1)).Nodup := by
  have hnames : (f.members.map (·.1)).Sublist ["server_url", "watchdog", "connectivity"] :=
    sublist_given _ <| sublist_given _ <| sublist_given _ <| List.Sublist.slnil
  exact hnames.nodup (by decide)

lemma reads (f : ConfigFile) :
    Config.record.decoder.Reads (depth + 2) (.object f.members) f.config := by
  have hfills : Config.record.Fills (depth + 1) {} f.members f.config := by
    refine .given f.serverUrl? rfl (fun s? => reads_of (reads_text s?)) <|
      .given f.heartbeat? rfl (fun h => reads_of h.reads) <|
      .given f.probe? rfl (fun p => reads_of p.reads) ?_
    obtain ⟨serverUrl?, heartbeat?, probe?⟩ := f
    cases serverUrl? <;> cases heartbeat? <;> cases probe? <;> exact .nil _
  exact hfills.reads rfl f.nodup_members

/-- **A file with some of the settings is read as these, with the defaults of the others**, however
it is formatted. -/
lemma parse_eq (f : ConfigFile) {content : String}
    (h : Json.Spelled (.object f.members) content.toList) :
    Config.record.decoder.parse content = .ok f.config :=
  (f.reads : Config.record.decoder.Reads Json.maxDepth _ f.config).parse h

end ConfigFile

end LinkWatch
