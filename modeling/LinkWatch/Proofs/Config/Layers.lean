/-
# Layers of settings

The settings of a run come in layers: the file, over it the environment, and over both of them
the command line.  A layer replaces the settings that it gives and leaves the others alone.  The
configuration is checked after the environment and once more at the end, so that the command line
cannot repair what is wrong below it.
-/
import LinkWatch.Command.Run
import LinkWatch.Proofs.Config.Bounds
import LinkWatch.Proofs.Config.Partial
import LinkWatch.Proofs.Config.Spellings

namespace LinkWatch.Config

variable {α : Type} {c c' : Config}

/-! ## Layers -/

/-- The settings that can be given above the file, each of them given or not. -/
structure Layer where
  url? : Option String
  target? : Option String
  intervalMs? : Option UInt64
  clock? : Option ClockMode

namespace Layer

/-- A configuration in which the settings that are given replace its own. -/
def applyTo (l : Layer) (c : Config) : Config where
  serverUrl? := l.url?.or c.serverUrl?
  heartbeat := { c.heartbeat with
    intervalMs := l.intervalMs?.getD c.heartbeat.intervalMs
    clock := l.clock?.getD c.heartbeat.clock }
  probe := { c.probe with target? := l.target?.or c.probe.target? }

/-- What the environment gives. A setting that cannot be read is not given. -/
def ofVariables (lookup : String → Option String) : Layer where
  url? := lookup "NETWATCH_SERVER_URL"
  target? := lookup "NETWATCH_PROBE_TARGET"
  intervalMs? := (lookup "NETWATCH_HEARTBEAT_INTERVAL_MS").bind fun raw =>
    parseWord? (Text.trim raw)
  clock? := (lookup "NETWATCH_BACKGROUND_CLOCK").bind fun raw => (ClockMode.parse raw).toOption

/-- What the command line gives. A mode that cannot be read is not given. -/
def ofArguments (a : Arguments) : Layer where
  url? := a.url?
  target? := a.target?
  intervalMs? := a.intervalMs?
  clock? := a.clock?.bind fun raw => (ClockMode.parse raw).toOption

end Layer

/-- A setting, if it is given, can be read. -/
def Readable (value? : Option String) (read : String → Option α) : Prop :=
  ∀ raw, value? = some raw → ∃ a, read raw = some a

/-! ## Changes that succeed -/

/-- A step after another one succeeds when both do. -/
lemma bind_eq_ok {β ε : Type} {x : Except ε α} {f : α → Except ε β} {b : β} :
    (x >>= f) = .ok b ↔ ∃ a, x = .ok a ∧ f a = .ok b := by
  cases x <;> simp [bind, Except.bind]

/-- A context is only told of failures. -/
lemma inContext_eq_ok {context : String} {r : Except Fault α} {a : α} :
    inContext context r = .ok a ↔ r = .ok a := by
  cases r <;> simp [inContext, Except.mapError, withContext]

/-- A configuration with a value put into it, if there is one. -/
def putIn (put : α → Config → Config) (a? : Option α) (c : Config) : Config :=
  (a?.map fun a => put a c).getD c

namespace Change

lemma andThen_eq_ok {first second : Change} :
    first.andThen second c = (c', .ok ()) ↔
      ∃ d, first c = (d, .ok ()) ∧ second d = (c', .ok ()) := by
  unfold andThen
  split
  next d h => simp [h]
  next d fault h => simp [h]

/-- A field is set exactly when the value, if there is one, can be read. -/
lemma set_eq_ok {value? : Option String} {read : String → Except ConfigFault α}
    {put : α → Config → Config} :
    set value? read put c = (c', .ok ()) ↔
      Readable value? (fun raw => (read raw).toOption) ∧
      c' = putIn put (value?.bind fun raw => (read raw).toOption) c := by
  unfold set Readable putIn
  cases value? with
  | none => simp [eq_comm]
  | some raw => cases hread : read raw <;> simp [hread, Except.toOption, eq_comm]

/-- A text is taken as it is. -/
lemma set_text_eq_ok {value? : Option String} {put : String → Config → Config} :
    set value? .ok put c = (c', .ok ()) ↔ c' = putIn put value? c := by
  cases value? <;> simp [set, putIn, eq_comm]

lemma keep_eq_ok : keep c = (c', .ok ()) ↔ c' = c := by
  simp [keep, eq_comm]

end Change

lemma check_eq_ok : check c = (c', .ok ()) ↔ c.heartbeat.validate = .ok () ∧ c' = c := by
  simp [check, eq_comm, and_comm]

/-! ## The layers of a run -/

lemma toOption_readInterval (raw : String) :
    (readInterval raw).toOption = parseWord? (Text.trim raw) := by
  unfold readInterval
  cases parseWord? (Text.trim raw) <;> rfl

/-- A layer is put into a configuration setting by setting. -/
lemma Layer.applyTo_eq (l : Layer) (c : Config) :
    putIn setTarget l.target? (putIn setClock l.clock? (putIn setInterval l.intervalMs?
      (putIn setServerUrl l.url? c))) = l.applyTo c := by
  obtain ⟨url?, target?, intervalMs?, clock?⟩ := l
  cases url? <;> cases target? <;> cases intervalMs? <;> cases clock? <;> rfl

/-- The target may be put in earlier, too. -/
lemma Layer.applyTo_eq_of_arguments (l : Layer) (c : Config) :
    putIn setClock l.clock? (putIn setInterval l.intervalMs? (putIn setTarget l.target?
      (putIn setServerUrl l.url? c))) = l.applyTo c := by
  obtain ⟨url?, target?, intervalMs?, clock?⟩ := l
  cases url? <;> cases target? <;> cases intervalMs? <;> cases clock? <;> rfl

/-- The environment is applied exactly when its interval and its mode can be read. -/
lemma applyEnvironment_eq_ok {lookup : String → Option String} :
    applyEnvironment lookup c = (c', .ok ()) ↔
      Readable (lookup "NETWATCH_HEARTBEAT_INTERVAL_MS") (fun raw => parseWord? (Text.trim raw)) ∧
      Readable (lookup "NETWATCH_BACKGROUND_CLOCK") (fun raw => (ClockMode.parse raw).toOption) ∧
      c' = (Layer.ofVariables lookup).applyTo c := by
  rw [← Layer.applyTo_eq]
  simp only [applyEnvironment, Change.all, Change.andThen_eq_ok, Change.set_text_eq_ok,
    Change.keep_eq_ok]
  simp only [Change.set_eq_ok, toOption_readInterval, exists_eq_left, and_assoc,
    exists_and_left, Layer.ofVariables]

/-- The command line is applied exactly when its mode can be read and the result is valid. -/
lemma applyArguments_eq_ok {a : Arguments} :
    applyArguments a c = (c', .ok ()) ↔
      Readable a.clock? (fun raw => (ClockMode.parse raw).toOption) ∧
      ((Layer.ofArguments a).applyTo c).heartbeat.validate = .ok () ∧
      c' = (Layer.ofArguments a).applyTo c := by
  have hinterval (d e : Config) :
      ((a.intervalMs?.map fun n => d.setInterval n).getD d, (.ok () : Except ConfigFault Unit)) =
        (e, .ok ()) ↔ e = putIn setInterval a.intervalMs? d := by
    simp [putIn, eq_comm]
  rw [← Layer.applyTo_eq_of_arguments]
  simp only [applyArguments, Change.all, Change.andThen_eq_ok, Change.set_text_eq_ok,
    Change.keep_eq_ok, check_eq_ok, hinterval]
  simp only [Change.set_eq_ok, exists_eq_left, and_assoc, exists_and_left,
    Layer.ofArguments]

/-! ## The configuration of a run -/

namespace Surroundings

/-- The value of an environment variable, if it is set. -/
def lookup (s : Surroundings) (name : String) : Option String := s.allVariables.get? name

/-- The file gives a configuration: the default one if there is no file, and otherwise the one
that its text is read as. -/
def FileGives (s : Surroundings) (base : Config) : Prop :=
  (s.disk.get? (path s.home) = none ∧ base = {}) ∨
  ∃ content, s.disk.get? (path s.home) = some (.text content) ∧
    record.decoder.parse content = .ok base

lemma loadFrom_eq_ok {s : Surroundings} :
    loadFrom (path s.home) s.disk = .ok c ↔ s.FileGives c := by
  unfold loadFrom ofEntry FileGives
  cases hentry : s.disk.get? (path s.home) with
  | none => simp [eq_comm]
  | some entry =>
    cases entry with
    | directory => simp
    | binary => simp
    | text content =>
      cases hparse : record.decoder.parse content <;> simp [Except.mapError, hparse]

/-- A file with some of the settings gives these, with the defaults of the others. -/
lemma fileGives_iff {s : Surroundings} {f : ConfigFile} {content : String}
    (hfile : s.disk.get? (path s.home) = some (.text content))
    (hcontent : Json.Spelled (.object f.members) content.toList) :
    s.FileGives c ↔ c = f.config := by
  simp [FileGives, hfile, f.parse_eq hcontent, eq_comm]

end Surroundings

/-- The configuration is loaded exactly when the file gives one, the environment can be applied to
it, and the result is valid. -/
lemma load_eq_ok {s : Surroundings} :
    load s = .ok c ↔ ∃ base, s.FileGives base ∧
      applyEnvironment s.lookup base = (c, .ok ()) ∧ c.heartbeat.validate = .ok () := by
  have happlied (base : Config) :
      Change.andThen (applyEnvironment s.lookup) check base = (c, .ok ()) ↔
        applyEnvironment s.lookup base = (c, .ok ()) ∧ c.heartbeat.validate = .ok () := by
    simp only [Change.andThen_eq_ok, check_eq_ok]
    constructor
    · rintro ⟨d, happly, hvalid, rfl⟩
      exact ⟨happly, hvalid⟩
    · rintro ⟨happly, hvalid⟩
      exact ⟨c, happly, hvalid, rfl⟩
  have hlookup : (fun name => s.allVariables.get? name) = s.lookup := rfl
  rw [load, bind_eq_ok, hlookup]
  refine exists_congr fun base => and_congr Surroundings.loadFrom_eq_ok ?_
  rw [← happlied]
  rcases Change.andThen (applyEnvironment s.lookup) check base with ⟨d, fault | ⟨⟩⟩ <;> simp

/-- A run has a configuration exactly when one is loaded and the command line can be applied. -/
lemma configure_eq_ok {s : Surroundings} {a : Arguments} :
    Run.configure s a = .ok c ↔ ∃ d, load s = .ok d ∧ applyArguments a d = (c, .ok ()) := by
  rw [Run.configure, bind_eq_ok]
  refine exists_congr fun d => and_congr inContext_eq_ok ?_
  rcases applyArguments a d with ⟨e, fault | ⟨⟩⟩ <;> simp

/-! ## Layers as they are given -/

/-- A setting, if it is given, is read just if it is spelled so. -/
lemma rel_iff {spelled : String → α → Prop} {read : String → Option α}
    (hread : ∀ {raw a}, read raw = some a ↔ spelled raw a) {value? : Option String}
    {a? : Option α} :
    Option.Rel spelled value? a? ↔ Readable value? read ∧ a? = value?.bind read := by
  constructor
  · intro h
    cases h with
    | none => exact ⟨nofun, rfl⟩
    | @some raw a h =>
      refine ⟨fun raw' hraw => ⟨a, ?_⟩, ?_⟩
      · rw [← Option.some.inj hraw, hread.mpr h]
      · rw [Option.bind_some, hread.mpr h]
  · rintro ⟨hreadable, rfl⟩
    cases value? with
    | none => exact .none
    | some raw =>
      obtain ⟨a, ha⟩ := hreadable raw rfl
      rw [Option.bind_some, ha]
      exact .some (hread.mp ha)

/-- A setting that is given is spelled so, and one that is not given has its default. -/
lemma rel_getD {spelled : String → α → Prop} {value? : Option String} {a? : Option α}
    (h : Option.Rel spelled value? a?) (default : α) :
    (∀ raw, value? = some raw → spelled raw (a?.getD default)) ∧
      (value? = none → a?.getD default = default) := by
  cases h with
  | none => exact ⟨nofun, fun _ => rfl⟩
  | @some raw a h => exact ⟨fun raw' hraw => Option.some.inj hraw ▸ h, nofun⟩

namespace Layer

/-- The settings that the environment gives: each variable is set just if its setting is given, and
its value spells the setting. -/
structure GivenByVariables (lookup : String → Option String) (l : Layer) : Prop where
  url : l.url? = lookup "NETWATCH_SERVER_URL"
  target : l.target? = lookup "NETWATCH_PROBE_TARGET"
  interval : Option.Rel (fun raw n => Spells n raw) (lookup "NETWATCH_HEARTBEAT_INTERVAL_MS")
    l.intervalMs?
  clock : Option.Rel (fun raw mode => mode.Named raw) (lookup "NETWATCH_BACKGROUND_CLOCK") l.clock?

/-- The settings that the command line gives. -/
structure GivenByArguments (a : Arguments) (l : Layer) : Prop where
  url : l.url? = a.url?
  target : l.target? = a.target?
  interval : l.intervalMs? = a.intervalMs?
  clock : Option.Rel (fun raw mode => mode.Named raw) a.clock? l.clock?

lemma givenByVariables_iff {lookup : String → Option String} {l : Layer} :
    l.GivenByVariables lookup ↔
      Readable (lookup "NETWATCH_HEARTBEAT_INTERVAL_MS") (fun raw => parseWord? (Text.trim raw)) ∧
      Readable (lookup "NETWATCH_BACKGROUND_CLOCK") (fun raw => (ClockMode.parse raw).toOption) ∧
      l = .ofVariables lookup := by
  constructor
  · rintro ⟨hurl, htarget, hinterval, hclock⟩
    obtain ⟨hreadable, hn⟩ := (rel_iff parseWord?_trim_eq_some_iff).mp hinterval
    obtain ⟨hreadable', hmode⟩ := (rel_iff ClockMode.toOption_parse_eq_some_iff).mp hclock
    exact ⟨hreadable, hreadable', by rw [ofVariables, ← hurl, ← htarget, ← hn, ← hmode]⟩
  · rintro ⟨hinterval, hclock, rfl⟩
    exact ⟨rfl, rfl, (rel_iff parseWord?_trim_eq_some_iff).mpr ⟨hinterval, rfl⟩,
      (rel_iff ClockMode.toOption_parse_eq_some_iff).mpr ⟨hclock, rfl⟩⟩

lemma givenByArguments_iff {a : Arguments} {l : Layer} :
    l.GivenByArguments a ↔
      Readable a.clock? (fun raw => (ClockMode.parse raw).toOption) ∧ l = .ofArguments a := by
  constructor
  · rintro ⟨hurl, htarget, hinterval, hclock⟩
    obtain ⟨hreadable, hmode⟩ := (rel_iff ClockMode.toOption_parse_eq_some_iff).mp hclock
    exact ⟨hreadable, by rw [ofArguments, ← hurl, ← htarget, ← hinterval, ← hmode]⟩
  · rintro ⟨hclock, rfl⟩
    exact ⟨rfl, rfl, rfl, (rel_iff ClockMode.toOption_parse_eq_some_iff).mpr ⟨hclock, rfl⟩⟩

end Layer

/-- What a run needs: a file that gives a configuration, a first layer over it that the environment
gives, a second one that the command line gives, and a configuration that is valid with the first of
them as well as with both. -/
structure Acceptable (s : Surroundings) (a : Arguments) (base : Config) (first second : Layer) :
    Prop where
  file : s.FileGives base
  environment : first.GivenByVariables s.lookup
  valid : (first.applyTo base).heartbeat.Valid
  commandLine : second.GivenByArguments a
  valid_at_end : (second.applyTo (first.applyTo base)).heartbeat.Valid

/-- **A run has a configuration just if there is an acceptable one.** -/
lemma configure_eq_ok_iff {s : Surroundings} {a : Arguments} :
    Run.configure s a = .ok c ↔
      ∃ base first second, Acceptable s a base first second ∧
        c = second.applyTo (first.applyTo base) := by
  simp only [configure_eq_ok, load_eq_ok, applyEnvironment_eq_ok, applyArguments_eq_ok,
    HeartbeatConfig.validate_eq_ok_iff]
  constructor
  · rintro ⟨_, ⟨base, hfile, ⟨hinterval, hclock, rfl⟩, hvalid⟩, hargument, hend, rfl⟩
    exact ⟨base, _, _, ⟨hfile, Layer.givenByVariables_iff.mpr ⟨hinterval, hclock, rfl⟩, hvalid,
      Layer.givenByArguments_iff.mpr ⟨hargument, rfl⟩, hend⟩, rfl⟩
  · rintro ⟨base, first, second, ⟨hfile, henvironment, hvalid, hcommandLine, hend⟩, rfl⟩
    obtain ⟨hinterval, hclock, rfl⟩ := Layer.givenByVariables_iff.mp henvironment
    obtain ⟨hargument, rfl⟩ := Layer.givenByArguments_iff.mp hcommandLine
    exact ⟨_, ⟨base, hfile, ⟨hinterval, hclock, rfl⟩, hvalid⟩, hargument, hend, rfl⟩

/-- **The settings of a run are layered.**  Whatever there is on the disk, in the environment and on
the command line:

* a run has a configuration exactly when the file is missing or its text can be read, the interval
  of the environment, if it is set, is a whole number of 64 bits between blanks, the mode of the
  environment and that of the command line, if they are given, are names of modes, and the
  configuration is valid both with the environment over the file and with the command line over
  these two;
* each of the four settings is then that of the command line if it is given there, else that of the
  environment if it is set there, else that of the file; all other settings are those of the file;
  and the interval lies between its bounds;
* a missing file stands for the defaults, and a file with some of the settings, however it is
  formatted, for these with the defaults of the others. -/
theorem configure_layers (s : Surroundings) (a : Arguments) :
    ((∃ c, Run.configure s a = .ok c) ↔ ∃ base first second, Acceptable s a base first second) ∧
    (∀ c, Run.configure s a = .ok c → ∃ base, s.FileGives base ∧
      c.serverUrl? = (a.url?.or (s.lookup "NETWATCH_SERVER_URL")).or base.serverUrl? ∧
      c.probe.target? = (a.target?.or (s.lookup "NETWATCH_PROBE_TARGET")).or base.probe.target? ∧
      (∀ n, a.intervalMs? = some n → c.heartbeat.intervalMs = n) ∧
      (a.intervalMs? = none →
        (∀ raw, s.lookup "NETWATCH_HEARTBEAT_INTERVAL_MS" = some raw →
          Spells c.heartbeat.intervalMs raw) ∧
        (s.lookup "NETWATCH_HEARTBEAT_INTERVAL_MS" = none →
          c.heartbeat.intervalMs = base.heartbeat.intervalMs)) ∧
      (∀ raw, a.clock?.or (s.lookup "NETWATCH_BACKGROUND_CLOCK") = some raw →
        c.heartbeat.clock.Named raw) ∧
      (a.clock?.or (s.lookup "NETWATCH_BACKGROUND_CLOCK") = none →
        c.heartbeat.clock = base.heartbeat.clock) ∧
      c.heartbeat.minIntervalMs = base.heartbeat.minIntervalMs ∧
      c.heartbeat.maxIntervalMs = base.heartbeat.maxIntervalMs ∧
      c.heartbeat.logDrift = base.heartbeat.logDrift ∧
      c.probe.pollIntervalMs = base.probe.pollIntervalMs ∧
      c.probe.timeoutMs = base.probe.timeoutMs ∧
      1 ≤ c.heartbeat.minIntervalMs ∧ c.heartbeat.minIntervalMs ≤ c.heartbeat.intervalMs ∧
      c.heartbeat.intervalMs ≤ c.heartbeat.maxIntervalMs) ∧
    (s.disk.get? (path s.home) = none → ∀ base, s.FileGives base ↔ base = {}) ∧
    ∀ (f : ConfigFile) (content : String), s.disk.get? (path s.home) = some (.text content) →
      Json.Spelled (.object f.members) content.toList →
      ∀ base, s.FileGives base ↔ base = f.config := by
  refine ⟨?_, ?_, fun hmissing base => by simp [Surroundings.FileGives, hmissing],
    fun f content hfile hcontent base => Surroundings.fileGives_iff hfile hcontent⟩
  · simp only [configure_eq_ok_iff]
    constructor
    · rintro ⟨c, base, first, second, hok, -⟩
      exact ⟨base, first, second, hok⟩
    · rintro ⟨base, first, second, hok⟩
      exact ⟨_, base, first, second, hok, rfl⟩
  · intro c hc
    obtain ⟨base, first, second, hok, rfl⟩ := configure_eq_ok_iff.mp hc
    have hvalid := hok.valid_at_end
    obtain ⟨hset, hunset⟩ := rel_getD hok.environment.interval base.heartbeat.intervalMs
    obtain ⟨hmode, hnoMode⟩ := rel_getD hok.environment.clock base.heartbeat.clock
    obtain ⟨hargument, hnoArgument⟩ :=
      rel_getD hok.commandLine.clock (first.clock?.getD base.heartbeat.clock)
    refine ⟨base, hok.file, ?_, ?_, ?_, ?_, ?_, ?_, rfl, rfl, rfl, rfl, rfl, hvalid.one_le_min,
      hvalid.first.1, hvalid.first.2⟩
    · simp only [Layer.applyTo, hok.environment.url, hok.commandLine.url, Option.or_assoc]
    · simp only [Layer.applyTo, hok.environment.target, hok.commandLine.target, Option.or_assoc]
    · intro n hn
      simp [Layer.applyTo, hok.commandLine.interval, hn]
    · intro hnone
      simp only [Layer.applyTo, hok.commandLine.interval, hnone, Option.getD_none]
      exact ⟨hset, hunset⟩
    · intro raw hraw
      rcases Option.or_eq_some_iff.mp hraw with hgiven | ⟨hnone, hgiven⟩
      · exact hargument raw hgiven
      · exact (congrArg (ClockMode.Named · raw) (hnoArgument hnone)).mpr (hmode raw hgiven)
    · intro hneither
      obtain ⟨hnone, hnone'⟩ := Option.or_eq_none_iff.mp hneither
      exact (hnoArgument hnone).trans (hnoMode hnone')

/-- A file with one setting. -/
def partialFile : ConfigFile where
  heartbeat? := some { minIntervalMs? := some 500 }

/-- Such a file, and an interval in the environment. -/
def threeLayers : Surroundings where
  home := ["home"]
  environment := [("NETWATCH_HEARTBEAT_INTERVAL_MS", " +2500 ")]
  disk := ⟨[(path ["home"], .text (Json.Value.object partialFile.members).text)]⟩

theorem configure_three_layers :
    ∃ c, Run.configure threeLayers { clock? := some " Off" } = .ok c ∧
      c.heartbeat.minIntervalMs = 500 ∧ c.heartbeat.intervalMs = 2500 ∧
      c.heartbeat.clock = .disabled ∧ c.heartbeat.maxIntervalMs = 3600000 := by
  obtain ⟨hsuccess, hfields, -, hfile⟩ := configure_layers threeLayers { clock? := some " Off" }
  have hbase : ∀ base, threeLayers.FileGives base ↔ base = partialFile.config := by
    refine hfile partialFile _ rfl ?_
    rw [Json.Value.text, String.toList_ofList]
    exact Json.Value.spelled_chars _
  have hspells : Spells 2500 " +2500 " := parseWord?_trim_eq_some_iff.mp (by decide)
  have hnamed : ClockMode.disabled.Named " Off" := ClockMode.toOption_parse_eq_some_iff.mp (by decide)
  have hok : Acceptable threeLayers { clock? := some " Off" } partialFile.config
      ⟨none, none, some 2500, none⟩ ⟨none, none, none, some .disabled⟩ :=
    ⟨(hbase _).mpr rfl, ⟨rfl, rfl, .some hspells, .none⟩,
      HeartbeatConfig.valid_of_validate rfl, ⟨rfl, rfl, rfl, .some hnamed⟩,
      HeartbeatConfig.valid_of_validate rfl⟩
  obtain ⟨c, hc⟩ := hsuccess.mpr ⟨_, _, _, hok⟩
  obtain ⟨base, hgives, -, -, -, hinterval, hclock, -, hmin, hmax, -⟩ := hfields c hc
  obtain rfl := (hbase base).mp hgives
  exact ⟨c, hc, hmin, ((hinterval rfl).1 _ rfl).eq hspells, (hclock _ rfl).eq hnamed, hmax⟩

-- The command line cannot repair an interval of zero in the environment.
example : (Run.configure ⟨["home"], [("NETWATCH_HEARTBEAT_INTERVAL_MS", "0")], ⟨[]⟩, []⟩
    { intervalMs? := some 3000 }).toOption = none := by
  decide

end LinkWatch.Config
