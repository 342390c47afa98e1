/-
# Configuration files read back

The file that is written for a configuration is read as just this configuration.  It gives every
setting, except that the address of the server is left out just when there is none, which is also
its default.
-/
import LinkWatch.Config.Store
import LinkWatch.Proofs.Config.Partial

namespace LinkWatch

open Json (Value)

/-- The section in which all settings of the heartbeat are given. -/
def HeartbeatConfig.toSection (c : HeartbeatConfig) : HeartbeatSection where
  intervalMs? := some c.intervalMs
  minIntervalMs? := some c.minIntervalMs
  maxIntervalMs? := some c.maxIntervalMs
  clock? := some c.clock
  logDrift? := some c.logDrift

/-- The section in which all settings of the probe are given. -/
def ProbeConfig.toSection (c : ProbeConfig) : ProbeSection where
  target? := some c.target?
  pollIntervalMs? := some c.pollIntervalMs
  timeoutMs? := some c.timeoutMs

/-! ## Files that are written -/

namespace Disk

variable {p q : Path} {content : String} {d d' : Disk}

lemma eq_put_of_write (h : d.write p content = .ok d') : d' = d.put p (.text content) := by
  unfold write at h
  split at h
  · cases h
  split at h
  · cases h
  split at h
  · cases h
  · exact (Except.ok.inj h).symm

/-- A file that was written holds what was written to it. -/
lemma get?_of_write (h : d.write p content = .ok d') : d'.get? p = some (.text content) := by
  simp [eq_put_of_write h, put, get?]

/-- The other files hold what they held before. -/
lemma front?_of_write (h : d.write p content = .ok d') (hq : q ≠ p) :
    (d'.get? q).bind Entry.front? = (d.get? q).bind Entry.front? := by
  have hother : ((p, Entry.text content) :: d.entries.filter (·.1 != p)).find? (·.1 == q) =
      d.entries.find? (·.1 == q) := by
    have hpq : ((p, Entry.text content).1 == q) = false := by simpa using hq.symm
    rw [List.find?_cons_of_neg (by simp [hpq]), List.find?_filter]
    congr 1
    funext e
    by_cases he : e.1 = q <;> simp [he, hq]
  simp only [eq_put_of_write h, put, get?, hother]
  split
  · rfl
  · -- there is no file: at most a directory, because of what is below it
    split <;> split <;> rfl

end Disk

namespace Config

/-! ## The text of a configuration -/

/-- What is written to the file of a configuration. -/
def toFile (c : Config) : ConfigFile where
  serverUrl? := c.serverUrl?.map some
  heartbeat? := some c.heartbeat.toSection
  probe? := some c.probe.toSection

lemma toJson_eq (c : Config) : c.toJson = .object c.toFile.members := by
  obtain ⟨url?, heartbeat, probe⟩ := c
  cases url? <;> rfl

lemma config_toFile (c : Config) : c.toFile.config = c := by
  obtain ⟨url?, heartbeat, probe⟩ := c
  cases url? <;> rfl

/-- A configuration is read from its file. -/
lemma parse_fileText (c : Config) : record.decoder.parse c.fileText = .ok c := by
  have hspelled : Json.Spelled (.object c.toFile.members) c.fileText.toList := by
    rw [fileText, Value.indentedText, String.toList_ofList, toJson_eq]
    exact Value.spelled_indentedChars 0 _
  rw [c.toFile.parse_eq hspelled, config_toFile]

/-- A file that was saved holds the text of the configuration. -/
lemma get?_of_saveTo {p : Path} {c : Config} {d d' : Disk} (h : saveTo p c d = .ok d') :
    d'.get? p = some (.text c.fileText) := by
  rw [saveTo] at h
  cases hwrite : d.write p c.fileText with
  | error fault =>
    rw [hwrite] at h
    cases h
  | ok d'' =>
    rw [hwrite] at h
    cases h
    exact Disk.get?_of_write hwrite

/-- **What was saved is loaded.**  When a configuration was saved to a file, whatever its settings
are and whether they are valid or not:

* loading the file gives back just this configuration;
* the file is its indented text, in which the address of the server is left out if there is none,
  and the target of the probe is always written, `null` standing for none; an empty text is written
  as an empty text in both places;
* no other configuration has the same file. -/
theorem loadFrom_of_saveTo (p : Path) (c : Config) (d d' : Disk) (saved : saveTo p c d = .ok d') :
    loadFrom p d' = .ok c ∧
    d'.get? p = some (.text c.toJson.indentedText) ∧
    c.toJson.member? "server_url" = c.serverUrl?.map .string ∧
    (c.toJson.member? "connectivity").bind (·.member? "target") =
      some (.orNull .string c.probe.target?) ∧
    ∀ c' : Config, c'.fileText = c.fileText → c' = c := by
  have hget := get?_of_saveTo saved
  refine ⟨?_, hget, ?_, ?_, fun c' htext => ?_⟩
  · rw [loadFrom, hget, ofEntry, parse_fileText]
    rfl
  · cases hurl : c.serverUrl? <;> simp [toJson, hurl, Value.member?]
  · cases hurl : c.serverUrl? <;> simp [toJson, hurl, Value.member?, ProbeConfig.toJson]
  · have hread := parse_fileText c
    rw [← htext, parse_fileText c'] at hread
    exact Except.ok.inj hread

/-- A configuration that is not valid, with an empty address, an empty target, and large numbers. -/
def odd : Config where
  serverUrl? := some ""
  heartbeat := { intervalMs := 0, maxIntervalMs := 18446744073709551615, clock := .disabled }
  probe := { target? := some "", timeoutMs := 18446744073709551615 }

theorem loadFrom_of_saveTo_odd :
    ∃ d', saveTo ["nested", "config.json"] odd ⟨[]⟩ = .ok d' ∧
      loadFrom ["nested", "config.json"] d' = .ok odd ∧
      odd.toJson.member? "server_url" = some (.string "") := by
  have saved : saveTo ["nested", "config.json"] odd ⟨[]⟩ =
      .ok ⟨[(["nested", "config.json"], .text odd.fileText)]⟩ := rfl
  obtain ⟨hload, -, hurl, -⟩ := loadFrom_of_saveTo _ _ _ _ saved
  exact ⟨_, saved, hload, hurl⟩

end Config

end LinkWatch
