/-
# The configuration in force, used as a file

The command that shows the configuration prints it as the text of a configuration file.  When this
text becomes the file, with or without a line end after it, the configuration in force is the same
as before: the file gives all of its settings, and the environment replaces some of them by what
they are already.  So the same text is printed again (`Config.present_again`), in the environment
in which it was printed first, and also in one that gives none of the settings any more.
-/
import LinkWatch.Command.Show
import LinkWatch.Proofs.Config.File
import LinkWatch.Proofs.Config.Layers

namespace LinkWatch

namespace Json.Decoder

variable {α : Type} {d : Decoder α} {v : Value} {a : α} {s t : String}

/-- A decoder that reads a value reads a text of it with blanks after it. -/
lemma Reads.parse_append (h : d.Reads maxDepth v a) (hs : Spelled v s.toList) (ht : Gap t.toList) :
    d.parse (s ++ t) = .ok a :=
  ReadsFrom.parse h String.toList_append gap_nil hs ht

end Json.Decoder

namespace Config

variable {c base : Config} {s s' : Surroundings}

/-- The text of a configuration is read with blanks after it, too. -/
lemma parse_fileText_append (c : Config) {blanks : String} (h : Json.Gap blanks.toList) :
    record.decoder.parse (c.fileText ++ blanks) = .ok c := by
  have hreads : record.decoder.Reads Json.maxDepth _ c.toFile.config := c.toFile.reads
  rw [config_toFile] at hreads
  refine hreads.parse_append ?_ h
  rw [fileText, Json.Value.indentedText, String.toList_ofList, toJson_eq]
  exact Json.Value.spelled_indentedChars 0 _

/-! ## Settings that are given again -/

namespace Layer

/-- Each setting that the layer gives is in force already. -/
structure InForce (l : Layer) (c : Config) : Prop where
  url : ∀ url, l.url? = some url → c.serverUrl? = some url
  target : ∀ target, l.target? = some target → c.probe.target? = some target
  interval : ∀ n, l.intervalMs? = some n → c.heartbeat.intervalMs = n
  clock : ∀ mode, l.clock? = some mode → c.heartbeat.clock = mode

/-- A setting that is in force already is replaced by itself. -/
lemma InForce.applyTo_eq {l : Layer} (h : l.InForce c) : l.applyTo c = c := by
  have hurl : l.url?.or c.serverUrl? = c.serverUrl? := by
    cases hl : l.url? with
    | none => rfl
    | some url => exact (h.url url hl).symm
  have htarget : l.target?.or c.probe.target? = c.probe.target? := by
    cases hl : l.target? with
    | none => rfl
    | some target => exact (h.target target hl).symm
  have hinterval : l.intervalMs?.getD c.heartbeat.intervalMs = c.heartbeat.intervalMs := by
    cases hl : l.intervalMs? with
    | none => rfl
    | some n => exact (h.interval n hl).symm
  have hclock : l.clock?.getD c.heartbeat.clock = c.heartbeat.clock := by
    cases hl : l.clock? with
    | none => rfl
    | some mode => exact (h.clock mode hl).symm
  rw [applyTo, hurl, htarget, hinterval, hclock]

/-- What a layer gave is in force. -/
lemma inForce_applyTo (l : Layer) (c : Config) : l.InForce (l.applyTo c) := by
  refine ⟨?_, ?_, ?_, ?_⟩ <;> intro a ha <;> simp [applyTo, ha]

end Layer

/-- Each of the variables that hold settings has the same value as before, or is not set. -/
def Surroundings.Repeats (s' s : Surroundings) : Prop :=
  ∀ name ∈ variableNames, s'.lookup name = s.lookup name ∨ s'.lookup name = none

namespace Surroundings.Repeats

/-- Whatever is set has the value that it had before. -/
lemma eq_some (h : s'.Repeats s) {name value : String} (hname : name ∈ variableNames)
    (hset : s'.lookup name = some value) : s.lookup name = some value := by
  rcases h name hname with hsame | hnone
  · exact hsame ▸ hset
  · rw [hnone] at hset
    cases hset

/-- Whatever could be read before can be read again. -/
lemma readable {α : Type} (h : s'.Repeats s) {name : String} (hname : name ∈ variableNames)
    {read : String → Option α} (hs : Readable (s.lookup name) read) :
    Readable (s'.lookup name) read :=
  fun raw hraw => hs raw (h.eq_some hname hraw)

/-- What the environment gives is in force when it was given before. -/
lemma inForce (h : s'.Repeats s) (hs : (Layer.ofVariables s.lookup).InForce c) :
    (Layer.ofVariables s'.lookup).InForce c := by
  refine ⟨fun url hurl => ?_, fun target htarget => ?_, fun n hn => ?_, fun mode hmode => ?_⟩
  · exact hs.url url (h.eq_some (by decide) hurl)
  · exact hs.target target (h.eq_some (by decide) htarget)
  · obtain ⟨raw, hraw, hread⟩ := Option.bind_eq_some_iff.mp hn
    exact hs.interval n (Option.bind_eq_some_iff.mpr ⟨raw, h.eq_some (by decide) hraw, hread⟩)
  · obtain ⟨raw, hraw, hread⟩ := Option.bind_eq_some_iff.mp hmode
    exact hs.clock mode (Option.bind_eq_some_iff.mpr ⟨raw, h.eq_some (by decide) hraw, hread⟩)

/-- **A configuration that was loaded is loaded from its own file**, as long as the environment
gives nothing but what it gave before. -/
lemma load_eq (h : s'.Repeats s) (hload : load s = .ok c) (hfile : s'.FileGives c) :
    load s' = .ok c := by
  obtain ⟨base, -, happly, hvalid⟩ := load_eq_ok.mp hload
  obtain ⟨hinterval, hclock, rfl⟩ := applyEnvironment_eq_ok.mp happly
  refine load_eq_ok.mpr ⟨_, hfile, applyEnvironment_eq_ok.mpr ⟨?_, ?_, ?_⟩, hvalid⟩
  · exact h.readable (by decide) hinterval
  · exact h.readable (by decide) hclock
  · exact ((h.inForce (Layer.inForce_applyTo _ base)).applyTo_eq).symm

end Surroundings.Repeats

/-! ## Showing the configuration again -/

/-- What is shown of a configuration that is loaded. -/
lemma present_of_load (h : load s = .ok c) :
    present false s = ⟨["# " ++ pathText (path s.home), c.fileText], s.disk, .ok ()⟩ := by
  have hload : loadForCommand { s with disk := s.disk } = .ok c := inContext_eq_ok.mpr h
  simp [present, hload]

/-- A configuration is shown just if one is loaded. -/
lemma present_result_eq_ok : (present false s).result = .ok () ↔ ∃ c, load s = .ok c := by
  constructor
  · intro h
    cases hload : loadForCommand s with
    | ok c => exact ⟨c, inContext_eq_ok.mp hload⟩
    | error report => simp [present, hload] at h
  · rintro ⟨c, hload⟩
    rw [present_of_load hload]

namespace Surroundings

/-- Writing to another file leaves the environment alone. -/
lemma lookup_of_write {p : Path} {content : String} {d : Disk}
    (h : s.disk.write p content = .ok d) (hp : variablesPath ≠ p) :
    lookup { s with disk := d } = s.lookup := by
  have htext := Disk.front?_of_write h hp
  funext name
  rw [lookup, lookup, allVariables, allVariables, variablesText?, variablesText?, htext]

/-- The file of environment variables is not that of the configuration. -/
lemma variablesPath_ne_path (home : Path) : variablesPath ≠ path home := by
  intro h
  have hlength := congrArg List.length h
  simp [variablesPath, path, directory] at hlength

end Surroundings

/-- **The configuration that is shown is a fixed point.**  Whenever the command shows a
configuration:

* it is the one that is loaded, and what is printed is the text of its file;
* when this text is written to the file of the configuration, with or without blanks and line ends
  after it, the command shows the same again, in the same environment;
* wherever this text is the file of the configuration, the command succeeds and prints it again, if
  each of the variables that hold settings has the same value as before or is not set, be it in
  the environment or in the file of variables; so it does where none of them is set. -/
theorem present_again (s : Surroundings) (success : (present false s).result = .ok ()) :
    ∃ c, load s = .ok c ∧
      (present false s).printed = ["# " ++ pathText (path s.home), c.fileText] ∧
      (∀ (blanks : String) (d : Disk), Json.Gap blanks.toList →
        s.disk.write (path s.home) (c.fileText ++ blanks) = .ok d →
        present false { s with disk := d } = { present false s with disk := d }) ∧
      ∀ (s' : Surroundings) (blanks : String), Json.Gap blanks.toList →
        s'.disk.get? (path s'.home) = some (.text (c.fileText ++ blanks)) →
        (∀ name ∈ variableNames, s'.lookup name = s.lookup name ∨ s'.lookup name = none) →
        (present false s').result = .ok () ∧
          (present false s').printed = ["# " ++ pathText (path s'.home), c.fileText] := by
  obtain ⟨c, hload⟩ := present_result_eq_ok.mp success
  have hagain {s' : Surroundings} {blanks : String} (hblanks : Json.Gap blanks.toList)
      (hfile : s'.disk.get? (path s'.home) = some (.text (c.fileText ++ blanks)))
      (hsame : s'.Repeats s) : load s' = .ok c :=
    hsame.load_eq hload (.inr ⟨_, hfile, parse_fileText_append c hblanks⟩)
  rw [present_of_load hload]
  refine ⟨c, hload, rfl, fun blanks d hblanks hwrite => ?_, fun s' blanks hblanks hfile hsame => ?_⟩
  · refine present_of_load (hagain hblanks (Disk.get?_of_write hwrite) fun name _ => .inl ?_)
    rw [Surroundings.lookup_of_write hwrite (Surroundings.variablesPath_ne_path s.home)]
  · rw [present_of_load (hagain hblanks hfile hsame)]
    exact ⟨rfl, rfl⟩

/-- What is in force with one setting from the file and one from the environment. -/
def twoSettings : Config where
  heartbeat := { intervalMs := 2500, minIntervalMs := 500 }

theorem present_again_three_layers :
    (present false threeLayers).result = .ok () ∧
      ∃ text, (present false threeLayers).printed = ["# home/.netwatch/config.json", text] ∧
        (present false ⟨["home"], [], ⟨[(path ["home"], .text (text ++ "\n"))]⟩, []⟩).printed =
          ["# home/.netwatch/config.json", text] := by
  have hfile : threeLayers.FileGives partialFile.config := by
    refine (Surroundings.fileGives_iff rfl ?_).mpr rfl
    rw [Json.Value.text, String.toList_ofList]
    exact Json.Value.spelled_chars _
  have hload : load threeLayers = .ok twoSettings := load_eq_ok.mpr ⟨_, hfile, rfl, rfl⟩
  have success := present_result_eq_ok.mpr ⟨_, hload⟩
  obtain ⟨c, -, hprinted, -, hagain⟩ := present_again threeLayers success
  have hblank : Json.Gap "\n".toList := by simp [Json.Gap, Json.Cursor.isGap]
  exact ⟨success, _, hprinted, (hagain _ "\n" hblank rfl fun name _ => .inr rfl).2⟩

end Config

end LinkWatch
