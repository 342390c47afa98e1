/-
# Files with unknown settings

A configuration file need not be one that was written by saving.  Starting from the file of a
configuration, any members may be removed at the top and in the two sections, the others may be put
into any order, blanks may be changed, and unknown members may be added anywhere among them.  Such a
file is read as the settings of the configuration that were kept, with the defaults of those that
were removed (`Config.loadFrom_of_abridged`).

The value of an unknown member may be any JSON at all.  Its name is read, however, and so it has to
spell a string: a file in which a name holds half of a surrogate pair alone is refused
(`Config.lone_surrogate_refused`).
-/
import LinkWatch.Config.Store
import LinkWatch.Proofs.Config.Partial
import Mathlib.Data.List.Perm.Subperm

namespace LinkWatch

open Json (Gap gap_nil ObjectText Spelled StringSpelled StringText Value)
open Json.Field (readsFrom_of)

/-- The members of an object. -/
def Json.Value.members : Value → List (String × Value)
  | .object members => members
  | _ => []

/-- A name that is not that of a field belongs to none. -/
lemma Json.Record.field?_eq_none {σ α : Type} {r : Json.Record σ α} {name : String}
    (h : name ∉ r.fields.map (·.name)) : r.field? name = none := by
  rw [field?, List.find?_eq_none]
  intro f hf hname
  exact h (List.mem_map.mpr ⟨f, hf, beq_iff_eq.mp hname⟩)

/-- The characters are a spelling of a name that is none of those that are known. -/
def Unknown (known : List String) (cs : List Char) : Prop :=
  ∃ name, StringSpelled name cs ∧ name ∉ known

lemma ignores_unknown {σ α : Type} (r : Json.Record σ α) :
    r.Ignores (Unknown (r.fields.map (·.name))) := by
  rintro cs ⟨name, hname, hknown⟩
  exact ⟨name, hname, Json.Record.field?_eq_none hknown⟩

/-- Members that are taken from others in any order have different names if these have. -/
lemma nodup_names_of_subperm {members all : List (String × Value)} (h : members.Subperm all)
    (hall : (all.map (·.1)).Nodup) : (members.map (·.1)).Nodup := by
  obtain ⟨l, hperm, hsub⟩ := h
  exact (hperm.map _).nodup_iff.mp ((hsub.map _).nodup hall)

variable {depth : ℕ}

/-! ## The section of the heartbeat -/

namespace HeartbeatConfig

variable {c : HeartbeatConfig}

/-- The names of the settings. -/
def names : List String :=
  ["heartbeat_interval_ms", "min_interval_ms", "max_interval_ms", "background_clock", "log_drift"]

/-- The settings with the given names, put into another configuration. -/
def overlay (c : HeartbeatConfig) (given : List String) (s : HeartbeatConfig) :
    HeartbeatConfig where
  intervalMs := if "heartbeat_interval_ms" ∈ given then c.intervalMs else s.intervalMs
  minIntervalMs := if "min_interval_ms" ∈ given then c.minIntervalMs else s.minIntervalMs
  maxIntervalMs := if "max_interval_ms" ∈ given then c.maxIntervalMs else s.maxIntervalMs
  clock := if "background_clock" ∈ given then c.clock else s.clock
  logDrift := if "log_drift" ∈ given then c.logDrift else s.logDrift

/-- Each member of the section is read as the setting of its name. -/
lemma reads_member {m : String × Value} (h : m ∈ c.toJson.members) :
    ∃ f update, record.field? m.1 = some f ∧ f.update.ReadsFrom depth (Spelled m.2) update ∧
      ∀ given s, c.overlay (m.1 :: given) s = c.overlay given (update s) := by
  simp only [toJson, Value.members, List.mem_cons, List.not_mem_nil, or_false] at h
  rcases h with rfl | rfl | rfl | rfl | rfl
  · exact ⟨_, _, rfl, readsFrom_of (Json.Decoder.reads_uint64 _), fun given s => by simp [overlay]⟩
  · exact ⟨_, _, rfl, readsFrom_of (Json.Decoder.reads_uint64 _), fun given s => by simp [overlay]⟩
  · exact ⟨_, _, rfl, readsFrom_of (Json.Decoder.reads_uint64 _), fun given s => by simp [overlay]⟩
  · exact ⟨_, _, rfl, readsFrom_of (ClockMode.reads _), fun given s => by simp [overlay]⟩
  · exact ⟨_, _, rfl, readsFrom_of (Json.Decoder.reads_bool _), fun given s => by simp [overlay]⟩

/-- The section is read as the settings that it gives, with the defaults of the others. -/
lemma reads_abridged {members : List (String × Value)} (h : members.Subperm c.toJson.members) :
    record.decoder.ReadsFrom (depth + 1) (ObjectText (Unknown names) (fun _ => Spelled) members)
      (c.overlay (members.map (·.1)) {}) :=
  Json.Record.reads_overlay c.overlay (fun s => by simp [overlay])
    (fun m hm => reads_member (h.subset hm)) rfl
    (nodup_names_of_subperm h (by decide : names.Nodup)) (ignores_unknown record)

end HeartbeatConfig

/-! ## The section of the probe -/

namespace ProbeConfig

variable {c : ProbeConfig}

/-- The names of the settings. -/
def names : List String := ["target", "poll_interval_ms", "timeout_ms"]

/-- The settings with the given names, put into another configuration. -/
def overlay (c : ProbeConfig) (given : List String) (s : ProbeConfig) : ProbeConfig where
  target? := if "target" ∈ given then c.target? else s.target?
  pollIntervalMs := if "poll_interval_ms" ∈ given then c.pollIntervalMs else s.pollIntervalMs
  timeoutMs := if "timeout_ms" ∈ given then c.timeoutMs else s.timeoutMs

/-- Each member of the section is read as the setting of its name. -/
lemma reads_member {m : String × Value} (h : m ∈ c.toJson.members) :
    ∃ f update, record.field? m.1 = some f ∧ f.update.ReadsFrom depth (Spelled m.2) update ∧
      ∀ given s, c.overlay (m.1 :: given) s = c.overlay given (update s) := by
  simp only [toJson, Value.members, List.mem_cons, List.not_mem_nil, or_false] at h
  rcases h with rfl | rfl | rfl
  · exact ⟨_, _, rfl, readsFrom_of (reads_text _), fun given s => by simp [overlay]⟩
  · exact ⟨_, _, rfl, readsFrom_of (Json.Decoder.reads_uint64 _), fun given s => by simp [overlay]⟩
  · exact ⟨_, _, rfl, readsFrom_of (Json.Decoder.reads_uint64 _), fun given s => by simp [overlay]⟩

/-- The section is read as the settings that it gives, with the defaults of the others. -/
lemma reads_abridged {members : List (String × Value)} (h : members.Subperm c.toJson.members) :
    record.decoder.ReadsFrom (depth + 1) (ObjectText (Unknown names) (fun _ => Spelled) members)
      (c.overlay (members.map (·.1)) {}) :=
  Json.Record.reads_overlay c.overlay (fun s => by simp [overlay])
    (fun m hm => reads_member (h.subset hm)) rfl
    (nodup_names_of_subperm h (by decide : names.Nodup)) (ignores_unknown record)

end ProbeConfig

/-! ## The file -/

namespace Config

/-- The names of what there is at the top. -/
def names : List String := ["server_url", "watchdog", "connectivity"]

/-- What is given at the top, put into another configuration. -/
def overlay (c : Config) (given : List String) (s : Config) : Config where
  serverUrl? := if "server_url" ∈ given then c.serverUrl? else s.serverUrl?
  heartbeat := if "watchdog" ∈ given then c.heartbeat else s.heartbeat
  probe := if "connectivity" ∈ given then c.probe else s.probe

/-- What is kept of the file of a configuration, each time in the order in which it comes there. -/
structure Abridged (c : Config) where
  members : List (String × Value)
  /-- What is kept in the section of the heartbeat, if that is kept. -/
  heartbeat : List (String × Value)
  /-- What is kept in the section of the probe, if that is kept. -/
  probe : List (String × Value)
  members_subperm : members.Subperm c.toJson.members
  heartbeat_subperm : heartbeat.Subperm c.heartbeat.toJson.members
  probe_subperm : probe.Subperm c.probe.toJson.members

namespace Abridged

variable {c : Config}

/-- Something at the top is kept. -/
def Keeps (a : Abridged c) (name : String) : Prop := name ∈ a.members.map (·.1)

/-- A setting of the heartbeat is kept. -/
def KeepsHeartbeat (a : Abridged c) (name : String) : Prop :=
  a.Keeps "watchdog" ∧ name ∈ a.heartbeat.map (·.1)

/-- A setting of the probe is kept. -/
def KeepsProbe (a : Abridged c) (name : String) : Prop :=
  a.Keeps "connectivity" ∧ name ∈ a.probe.map (·.1)

instance (a : Abridged c) (name : String) : Decidable (a.Keeps name) :=
  inferInstanceAs (Decidable (name ∈ a.members.map (·.1)))

instance (a : Abridged c) (name : String) : Decidable (a.KeepsHeartbeat name) :=
  inferInstanceAs (Decidable (a.Keeps "watchdog" ∧ name ∈ a.heartbeat.map (·.1)))

instance (a : Abridged c) (name : String) : Decidable (a.KeepsProbe name) :=
  inferInstanceAs (Decidable (a.Keeps "connectivity" ∧ name ∈ a.probe.map (·.1)))

/-- The texts of a member at the top, with unknown members in the sections. -/
def texts (a : Abridged c) (unknown : List String → List Char → Prop) (name : String) (v : Value) :
    List Char → Prop :=
  if name = "watchdog" then
    ObjectText (unknown HeartbeatConfig.names) (fun _ => Spelled) a.heartbeat
  else if name = "connectivity" then
    ObjectText (unknown ProbeConfig.names) (fun _ => Spelled) a.probe
  else Spelled v

/-- The text of a file in which this is kept, with unknown members among it and blanks around it. -/
def IsText (a : Abridged c) (unknown : List String → List Char → Prop) (content : String) : Prop :=
  ∃ g cs h, content.toList = g ++ (cs ++ h) ∧ Gap g ∧ Gap h ∧
    ObjectText (unknown Config.names) (a.texts unknown) a.members cs

/-- What is kept, as it is read: the sections with the defaults of what was removed there. -/
def kept (a : Abridged c) : Config where
  serverUrl? := c.serverUrl?
  heartbeat := c.heartbeat.overlay (a.heartbeat.map (·.1)) {}
  probe := c.probe.overlay (a.probe.map (·.1)) {}

/-- Each member at the top is read as what has its name. -/
lemma reads_member (a : Abridged c) {m : String × Value} (h : m ∈ c.toJson.members) :
    ∃ f update, record.field? m.1 = some f ∧
      f.update.ReadsFrom (depth + 1) (a.texts Unknown m.1 m.2) update ∧
      ∀ given s, a.kept.overlay (m.1 :: given) s = a.kept.overlay given (update s) := by
  simp only [toJson, Value.members, List.mem_append, Option.mem_toList,
    Option.map_eq_some_iff, List.mem_cons, List.not_mem_nil, or_false] at h
  rcases h with ⟨url, hurl, rfl⟩ | rfl | rfl
  · refine ⟨_, _, rfl, readsFrom_of (reads_text (some url)), ?_⟩
    intro given s
    simp [overlay, kept, hurl]
  · refine ⟨_, _, rfl, readsFrom_of (HeartbeatConfig.reads_abridged a.heartbeat_subperm), ?_⟩
    intro given s
    simp [overlay, kept]
  · refine ⟨_, _, rfl, readsFrom_of (ProbeConfig.reads_abridged a.probe_subperm), ?_⟩
    intro given s
    simp [overlay, kept]

/-- The names at the top are different. -/
lemma nodup_names (c : Config) : (c.toJson.members.map (·.1)).Nodup := by
  obtain ⟨url?, heartbeat, probe⟩ := c
  cases url? with
  | none => exact (by decide : ["watchdog", "connectivity"].Nodup)
  | some url => exact (by decide : names.Nodup)

/-- The file is read as what it keeps, with the defaults of the rest. -/
lemma loadFrom_eq (a : Abridged c) {p : Path} {d : Disk} {content : String}
    (file : d.get? p = some (.text content)) (text : a.IsText Unknown content) :
    loadFrom p d = .ok (a.kept.overlay (a.members.map (·.1)) {}) := by
  obtain ⟨g, cs, h, hcontent, hg, hh, hcs⟩ := text
  have hreads : record.decoder.ReadsFrom Json.maxDepth
      (ObjectText (Unknown Config.names) (a.texts Unknown) a.members)
      (a.kept.overlay (a.members.map (·.1)) {}) :=
    Json.Record.reads_overlay a.kept.overlay (fun s => by simp [overlay])
      (fun m hm => a.reads_member (a.members_subperm.subset hm)) rfl
      (nodup_names_of_subperm a.members_subperm (nodup_names c)) (ignores_unknown record)
  rw [loadFrom, file, ofEntry, hreads.parse hcontent hg hcs hh]
  rfl

/-- A setting of the heartbeat is that of the configuration if it is kept, and else the default. -/
lemma heartbeat_overlay {β : Type} (a : Abridged c) (get : HeartbeatConfig → β) (name : String)
    (hget : ∀ given s, get (c.heartbeat.overlay given s) =
      if name ∈ given then get c.heartbeat else get s) :
    get (a.kept.overlay (a.members.map (·.1)) {}).heartbeat =
      get (if a.KeepsHeartbeat name then c else {}).heartbeat := by
  by_cases hsection : "watchdog" ∈ a.members.map (·.1) <;>
    by_cases hname : name ∈ a.heartbeat.map (·.1) <;>
    simp [overlay, kept, KeepsHeartbeat, Keeps, hget, hsection, hname]

/-- So is a setting of the probe. -/
lemma probe_overlay {β : Type} (a : Abridged c) (get : ProbeConfig → β) (name : String)
    (hget : ∀ given s, get (c.probe.overlay given s) =
      if name ∈ given then get c.probe else get s) :
    get (a.kept.overlay (a.members.map (·.1)) {}).probe =
      get (if a.KeepsProbe name then c else {}).probe := by
  by_cases hsection : "connectivity" ∈ a.members.map (·.1) <;>
    by_cases hname : name ∈ a.probe.map (·.1) <;>
    simp [overlay, kept, KeepsProbe, Keeps, hget, hsection, hname]

end Abridged

/-- **A file gives what it keeps, whatever else is in it.**  Take the file of any configuration, and
remove any members from it, at the top and in the two sections; put the others into any order,
change the blanks, and add unknown members anywhere, any number of them, whose names may be spelled
in any way and whose values may be any JSON.  Loading this file succeeds, and each setting is

* that of the configuration, if it was kept, and its section with it;
* the default, if it was removed, or its section was. -/
theorem loadFrom_of_abridged {c : Config} (a : Abridged c) {p : Path} {d : Disk} {content : String}
    (file : d.get? p = some (.text content)) (text : a.IsText Unknown content) :
    ∃ c', loadFrom p d = .ok c' ∧
      c'.serverUrl? = (if a.Keeps "server_url" then c else {}).serverUrl? ∧
      c'.heartbeat.intervalMs =
        (if a.KeepsHeartbeat "heartbeat_interval_ms" then c else {}).heartbeat.intervalMs ∧
      c'.heartbeat.minIntervalMs =
        (if a.KeepsHeartbeat "min_interval_ms" then c else {}).heartbeat.minIntervalMs ∧
      c'.heartbeat.maxIntervalMs =
        (if a.KeepsHeartbeat "max_interval_ms" then c else {}).heartbeat.maxIntervalMs ∧
      c'.heartbeat.clock =
        (if a.KeepsHeartbeat "background_clock" then c else {}).heartbeat.clock ∧
      c'.heartbeat.logDrift = (if a.KeepsHeartbeat "log_drift" then c else {}).heartbeat.logDrift ∧
      c'.probe.target? = (if a.KeepsProbe "target" then c else {}).probe.target? ∧
      c'.probe.pollIntervalMs =
        (if a.KeepsProbe "poll_interval_ms" then c else {}).probe.pollIntervalMs ∧
      c'.probe.timeoutMs = (if a.KeepsProbe "timeout_ms" then c else {}).probe.timeoutMs := by
  refine ⟨_, a.loadFrom_eq file text, ?_, ?_, ?_, ?_, ?_, ?_, ?_, ?_, ?_⟩
  · by_cases hurl : "server_url" ∈ a.members.map (·.1) <;>
      simp [overlay, Abridged.kept, Abridged.Keeps, hurl]
  · exact a.heartbeat_overlay (·.intervalMs) _ fun _ _ => rfl
  · exact a.heartbeat_overlay (·.minIntervalMs) _ fun _ _ => rfl
  · exact a.heartbeat_overlay (·.maxIntervalMs) _ fun _ _ => rfl
  · exact a.heartbeat_overlay (·.clock) _ fun _ _ => rfl
  · exact a.heartbeat_overlay (·.logDrift) _ fun _ _ => rfl
  · exact a.probe_overlay (·.target?) _ fun _ _ => rfl
  · exact a.probe_overlay (·.pollIntervalMs) _ fun _ _ => rfl
  · exact a.probe_overlay (·.timeoutMs) _ fun _ _ => rfl

/-- A string that is half of a surrogate pair alone. -/
def loneSurrogate : List Char := ['"', '\\', 'u', 'd', '8', '0', '0', '"']

lemma stringText_loneSurrogate : StringText loneSurrogate := by
  have hdigits : Json.HexText 0xd800 ['d', '8', '0', '0'] :=
    @Json.HexText.digits 13 8 0 0 'd' '8' '0' '0' (.inl rfl) (.inl rfl) (.inl rfl) (.inl rfl)
  exact ⟨[['\\', 'u', 'd', '8', '0', '0']], by simpa using Json.StringPart.unicode hdigits, rfl⟩

/-- It spells no string, since it cannot be read. -/
lemma not_stringSpelled_loneSurrogate (name : String) : ¬StringSpelled name loneSurrogate := by
  intro h
  obtain ⟨ds, hds, hread⟩ := h.exists_readString_eq
  obtain rfl : loneSurrogate.tail = ds := congrArg List.tail hds
  have hrefused : (Json.readString ⟨loneSurrogate.tail ++ [], ⟨1, 0⟩⟩).toOption = none := rfl
  rw [hread] at hrefused
  cases hrefused

/-- A configuration with settings of its own in both sections. -/
def ample : Config where
  serverUrl? := some "ws://server"
  heartbeat := { intervalMs := 750, clock := .task }
  probe := { target? := some "server:80", timeoutMs := 9 }

/-- Its two sections are kept, in the other order, each with one setting. -/
def oneOfEach : Abridged ample where
  members := [("connectivity", ample.probe.toJson), ("watchdog", ample.heartbeat.toJson)]
  heartbeat := [("background_clock", .string "task")]
  probe := [("timeout_ms", .int 9)]
  members_subperm := ⟨_, .swap _ _ _, .cons _ (.refl _)⟩
  heartbeat_subperm := ⟨_, .refl _, .cons _ (.cons _ (.cons _ (.cons_cons _ (.cons _ .slnil))))⟩
  probe_subperm := ⟨_, .refl _, .cons _ (.cons _ (.cons_cons _ .slnil))⟩

/-- A text of it, with an unknown member at the top and one in a section. -/
def oneOfEachText : String :=
  " \x7b\"no\\u0074e\" : [1e999,\x7b\"\\ud800\":null\x7d],\n" ++
    "\"connectivity\":\x7b\"timeout_ms\" :9\x7d," ++
    "\"watchdog\":\x7b\"s\":\"\\ud800\",\"background_clock\":\"task\"\x7d\x7d\n"

theorem loadFrom_of_abridged_one_of_each :
    oneOfEach.IsText Unknown oneOfEachText ∧
      ∃ c', loadFrom ["config.json"] ⟨[(["config.json"], .text oneOfEachText)]⟩ = .ok c' ∧
        c'.serverUrl? = none ∧ c'.heartbeat.intervalMs = 2000 ∧ c'.heartbeat.clock = .task ∧
        c'.probe.target? = none ∧ c'.probe.timeoutMs = 9 := by
  have hliteral : ∀ c ∈ ['n', 'o', 'e', 's'], Json.CharSpelled c [c] := by
    intro c hc
    simp only [List.mem_cons, List.not_mem_nil, or_false] at hc
    rcases hc with rfl | rfl | rfl | rfl <;> exact .literal ⟨by decide, by decide, by decide⟩
  have hescape : Json.CharSpelled 't' ['\\', 'u', '0', '0', '7', '4'] :=
    .unicode (@Json.HexText.digits 0 0 7 4 '0' '0' '7' '4' (.inl rfl) (.inl rfl) (.inl rfl)
      (.inl rfl))
  have hnote : Unknown Config.names ['"', 'n', 'o', '\\', 'u', '0', '0', '7', '4', 'e', '"'] :=
    ⟨"note", ⟨_, .cons (hliteral 'n' (by decide)) (.cons (hliteral 'o' (by decide))
      (.cons hescape (.cons (hliteral 'e' (by decide)) .nil))), rfl⟩, by decide⟩
  have hs : Unknown HeartbeatConfig.names ['"', 's', '"'] :=
    ⟨"s", ⟨_, .cons (hliteral 's' (by decide)) .nil, rfl⟩, by decide⟩
  have hnumeral : Json.NumeralText ['1', 'e', '9', '9', '9'] :=
    @Json.NumeralText.parts [] ['1'] [] ['e', '9', '9', '9'] (.inl rfl)
      ⟨by simp, by simp, by simp⟩ .absent
      (@Json.ExponentText.digits 'e' [] ['9', '9', '9'] (.inl rfl) (.inl rfl)
        ⟨by simp, by simp⟩)
  have hlist : Json.ValueText _ :=
    .list (@Json.ItemsText.item true [] [] _ _ gap_nil gap_nil (.number hnumeral)
      (@Json.ItemsText.item false [] [] _ _ gap_nil gap_nil
        (.object (@Json.MembersText.member true [] [] _ [] [] _ _ gap_nil gap_nil
          stringText_loneSurrogate gap_nil gap_nil .null
          (@Json.MembersText.close false [] gap_nil)))
        (@Json.ItemsText.close false [] gap_nil)))
  have hheartbeat : Json.Mingled (Unknown HeartbeatConfig.names) (fun _ => Spelled) true
      oneOfEach.heartbeat _ :=
    @Json.Mingled.stranger _ _ true [] [] _ [] [] _ _ _ gap_nil gap_nil hs gap_nil gap_nil
      (.string stringText_loneSurrogate)
      (@Json.Mingled.member _ _ false "background_clock" [] [] [] [] _ _ _ _ gap_nil gap_nil gap_nil
        gap_nil (.string "task") (@Json.Mingled.close _ _ false [] gap_nil))
  have hprobe : Json.Mingled (Unknown ProbeConfig.names) (fun _ => Spelled) true
      oneOfEach.probe _ :=
    @Json.Mingled.member _ _ true "timeout_ms" [] [] [' '] [] _ _ _ _ gap_nil gap_nil
      Json.Value.gap_blank gap_nil (.number (.integer 9)) (@Json.Mingled.close _ _ false [] gap_nil)
  have hnewLine : Gap ['\n'] := by simp [Gap, Json.Cursor.isGap]
  have hmembers : Json.Mingled (Unknown Config.names) (oneOfEach.texts Unknown) true
      oneOfEach.members _ :=
    @Json.Mingled.stranger _ _ true [] [] _ [' '] [' '] _ _ _ gap_nil gap_nil hnote
      Json.Value.gap_blank Json.Value.gap_blank hlist
      (@Json.Mingled.member _ _ false "connectivity" [] ['\n'] [] [] _ _ _ _ gap_nil hnewLine
        gap_nil gap_nil ⟨_, rfl, hprobe⟩
        (@Json.Mingled.member _ _ false "watchdog" [] [] [] [] _ _ _ _ gap_nil gap_nil gap_nil
          gap_nil ⟨_, rfl, hheartbeat⟩ (@Json.Mingled.close _ _ false [] gap_nil)))
  have text : oneOfEach.IsText Unknown oneOfEachText := by
    refine ⟨[' '], _, ['\n'], ?_, Json.Value.gap_blank, hnewLine, _, rfl, hmembers⟩
    decide +kernel
  obtain ⟨c', hload, hurl, hinterval, -, -, hclock, -, htarget, -, htimeout⟩ :=
    loadFrom_of_abridged oneOfEach (p := ["config.json"])
      (d := ⟨[(["config.json"], .text oneOfEachText)]⟩) rfl text
  exact ⟨text, c', hload, hurl, hinterval, hclock, htarget, htimeout⟩

/-! ## Names that spell no string -/

/-- The characters are a string, and no spelling of a name that is known. -/
def Strange (known : List String) (cs : List Char) : Prop :=
  StringText cs ∧ ∀ name ∈ known, ¬StringSpelled name cs

/-- **An unknown name is a strange one that spells a string at all.** -/
theorem unknown_iff {known : List String} {cs : List Char} :
    Unknown known cs ↔ Strange known cs ∧ ∃ name, StringSpelled name cs := by
  constructor
  · rintro ⟨name, hname, hknown⟩
    refine ⟨⟨hname.stringText, ?_⟩, name, hname⟩
    intro other hother hspelled
    exact hknown (hname.injective hspelled ▸ hother)
  · rintro ⟨⟨-, hknown⟩, name, hname⟩
    exact ⟨name, hname, fun hmem => hknown name hmem hname⟩

/-- Nothing is kept of the default configuration. -/
def nothing : Abridged {} where
  members := []
  heartbeat := []
  probe := []
  members_subperm := List.nil_subperm
  heartbeat_subperm := List.nil_subperm
  probe_subperm := List.nil_subperm

/-- An object whose only member is unknown, and has half of a surrogate pair as its name. -/
def nameless : String := "\x7b\"\\ud800\":0\x7d"

/-- Such a file is refused, although it is a text of an object in which nothing is kept. -/
theorem lone_surrogate_refused :
    nothing.IsText Strange nameless ∧
      ∀ c, loadFrom ["config.json"] ⟨[(["config.json"], .text nameless)]⟩ ≠ .ok c := by
  constructor
  · have hname : Strange Config.names loneSurrogate :=
      ⟨stringText_loneSurrogate, fun name _ => not_stringSpelled_loneSurrogate name⟩
    have hzero : Json.NumeralText ['0'] :=
      @Json.NumeralText.parts [] ['0'] [] [] (.inl rfl) ⟨by simp, by simp, by simp⟩ .absent .absent
    exact ⟨[], _, [], rfl, gap_nil, gap_nil, _, rfl,
      @Json.Mingled.stranger _ _ true [] [] _ [] [] _ _ _ gap_nil gap_nil hname gap_nil gap_nil
        (.number hzero) (@Json.Mingled.close _ _ false [] gap_nil)⟩
  · intro c hc
    have hrefused :
        (loadFrom ["config.json"] ⟨[(["config.json"], .text nameless)]⟩).toOption = none := rfl
    rw [hc] at hrefused
    cases hrefused

end Config

end LinkWatch
