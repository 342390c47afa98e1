/-
# A demonstration from its beginning to its end

The script of a demonstration changes the regime after each quarter of its length: the network
comes, the interval becomes one second, the network goes, and it comes back.  In virtual time every
tick is served at the instant at which it is due.  So the number of heartbeats is found by counting
the whole intervals in the quarters in which the network is there (`Demo.heartbeats_of_length`).
-/
import LinkWatch.Proofs.Command.Script
import LinkWatch.Proofs.Simulation.Keeping
import LinkWatch.Proofs.Watchdog.Directive

namespace LinkWatch.Demo

open Simulation

lemma valid_config : config.Valid := HeartbeatConfig.valid_of_validate rfl

/-- The numeral `1`. -/
def one : Json.Numeral := ⟨false, ['1'], none, none⟩

/-- The directive of the script asks for one second. -/
lemma requestedMs?_script : (⟨Event.setInterval, .string "1"⟩ : Event).requestedMs? = some 1000 := by
  have hone : one.Thousandths 1000 :=
    ⟨⟨⟨by decide, List.all_eq_true.mp rfl, by decide⟩, nofun, rfl⟩, rfl, by decide, by decide⟩
  have hdenotes : Interval.Denotes 1000 (.string "1") :=
    @Interval.Denotes.string 1000 one [] [] hone nofun nofun
  exact Event.requestedMs?_of_ofPayload (hdenotes.ofPayload_eq (by decide) (by decide))

/-! ## The steps -/

variable {w : World} {r : Regime} {since? : Option ℕ} {before t : ℕ}

/-- Until the time of a step everything goes on as before. -/
lemma keeps_waitUntil (h : w.Keeps config r since? before) (hle : w.now ≤ t) :
    (waitUntil (millis t) w).Keeps config r since? before ∧ (waitUntil (millis t) w).Quiet ∧
      (waitUntil (millis t) w).now = t := by
  have htime : millis t / nanosPerMilli = t := Nat.mul_div_cancel t (by decide)
  obtain ⟨hkeeps, hquiet, hnow⟩ := h.advance valid_config (t - w.now)
  rw [waitUntil, htime]
  exact ⟨hkeeps, hquiet, hnow.trans (Nat.add_sub_cancel' hle)⟩

lemma act_connectivity (w : World) (online : Bool) :
    act w (.connectivity online) = (w.sendSignals [online]).2 := rfl

lemma act_directive (w : World) (payload : String) :
    act w (.directive payload) = (w.inject [⟨Event.setInterval, .string payload⟩]).2 := rfl

lemma keeps_connectivity (h : w.Keeps config r since? before) (hle : w.now ≤ t) {online : Bool}
    (hne : online ≠ r.onLine) :
    (act (waitUntil (millis t) w) (.connectivity online)).Keeps config
        { r with onLine := online } (Watchdog.opened { r with onLine := online } (millis t))
        (before + World.beatsBy r since? (millis t)) ∧
      (act (waitUntil (millis t) w) (.connectivity online)).now = t := by
  obtain ⟨hkeeps, hquiet, hnow⟩ := keeps_waitUntil h hle
  have hsent := hkeeps.heartbeatsSent_eq hquiet
  obtain ⟨hkeeps', -, hnow'⟩ := hkeeps.sendSignals valid_config hquiet hne
  rw [hsent, hnow] at hkeeps'
  rw [act_connectivity]
  exact ⟨hkeeps', hnow'.trans hnow⟩

lemma keeps_directive (h : w.Keeps config r since? before) (hle : w.now ≤ t)
    (hne : r.intervalMs ≠ 1000) :
    (act (waitUntil (millis t) w) (.directive "1")).Keeps config
        { r with intervalMs := 1000 } (Watchdog.opened { r with intervalMs := 1000 } (millis t))
        (before + World.beatsBy r since? (millis t)) ∧
      (act (waitUntil (millis t) w) (.directive "1")).now = t := by
  obtain ⟨hkeeps, hquiet, hnow⟩ := keeps_waitUntil h hle
  have hsent := hkeeps.heartbeatsSent_eq hquiet
  have hclamp : config.clamp 1000 = 1000 := by decide
  obtain ⟨hkeeps', -, hnow'⟩ :=
    hkeeps.inject valid_config hquiet requestedMs?_script (hclamp ▸ hne.symm)
  rw [hsent, hnow, hclamp] at hkeeps'
  rw [act_directive]
  exact ⟨hkeeps', hnow'.trans hnow⟩

/-! ## The whole script -/

/-- The script, with a quarter of its length in milliseconds. -/
def script (quarter : ℕ) : List (ℕ × Step) := [
  (millis 0, .connectivity true),
  (millis quarter, .directive "1"),
  (millis (2 * quarter), .connectivity false),
  (millis (3 * quarter), .connectivity true)]

lemma perform_nil (w : World) : perform [] w = w := rfl

lemma perform_cons (t : ℕ) (step : Step) (steps : List (ℕ × Step)) (w : World) :
    perform ((t, step) :: steps) w = perform steps (act (waitUntil t w) step) := rfl

lemma scenario?_eq_script {seconds : UInt64} (h : 3 * length seconds ≤ maxWord) :
    scenario? seconds = some (script (250 * length seconds)) := by
  have hquarter : length seconds * nanosPerSecond / 4 = millis (250 * length seconds) := by
    rw [nanosPerSecond, millis, nanosPerMilli]
    omega
  have hhalf : length seconds * nanosPerSecond / 2 = millis (2 * (250 * length seconds)) := by
    rw [nanosPerSecond, millis, nanosPerMilli]
    omega
  have hlast : length seconds * nanosPerSecond * 3 / 4 = millis (3 * (250 * length seconds)) := by
    rw [nanosPerSecond, millis, nanosPerMilli]
    omega
  rw [scenario?, if_pos h, hquarter, hhalf, hlast, script]
  rfl

/-- The whole intervals between two times. -/
lemma beatsBy_of_onLine (n : UInt64) (t u : ℕ) :
    World.beatsBy ⟨true, n⟩ (some (millis t)) (millis u) = (u - t) / n.toNat := by
  have hinterval : Regime.interval ⟨true, n⟩ = millis n.toNat := rfl
  rw [World.beatsBy, Option.map_some, Option.getD_some, hinterval, millis, millis, millis,
    ← Nat.sub_mul, Nat.mul_div_mul_right _ _ (by decide)]

/-- **The script is carried out on schedule.** -/
lemma keeps_perform (h : w.Keeps config (.initial config) none 0) (hnow : w.now = 0) (q : ℕ) :
    (perform (script q) w).Keeps config ⟨true, 1000⟩ (some (millis (3 * q)))
        (q / 2000 + q / 1000) ∧
      (perform (script q) w).now = 3 * q := by
  obtain ⟨hcame, hnow₀⟩ := keeps_connectivity (t := 0) h hnow.le (show true ≠ false by decide)
  obtain ⟨hfaster, hnow₁⟩ :=
    keeps_directive (t := q) hcame (hnow₀.trans_le (Nat.zero_le q)) (by decide)
  obtain ⟨hwent, hnow₂⟩ :=
    keeps_connectivity (t := 2 * q) hfaster (hnow₁.trans_le (by omega)) (show false ≠ true by decide)
  obtain ⟨hback, hnow₃⟩ :=
    keeps_connectivity (t := 3 * q) hwent (hnow₂.trans_le (by omega)) (show true ≠ false by decide)
  rw [script, perform_cons, perform_cons, perform_cons, perform_cons, perform_nil]
  refine ⟨?_, hnow₃⟩
  have hcount : 0 + 0 + World.beatsBy ⟨true, 2000⟩ (some (millis 0)) (millis q) +
      World.beatsBy ⟨true, 1000⟩ (some (millis q)) (millis (2 * q)) + 0 = q / 2000 + q / 1000 := by
    have htwo : UInt64.toNat 2000 = 2000 := rfl
    have hone : UInt64.toNat 1000 = 1000 := rfl
    rw [beatsBy_of_onLine, beatsBy_of_onLine, htwo, hone]
    omega
  rw [← hcount]
  exact hback

/-- The world in which a demonstration begins. -/
def opening (epoch : Timestamp) : World where
  epoch := epoch
  watchdog := { core := .new config true }
  clock := .new
  observed := [.log .clockReady]

lemma run_of_scenario? {seconds : UInt64} {steps : List (ℕ × Step)}
    (h : scenario? seconds = some steps) (epoch : Timestamp) (stamps : Stamps) :
    run seconds epoch stamps = some (.ok ((steps.map fun step => stepLine step.1 step.2) ++
      summary stamps (ending (length seconds * nanosPerSecond) steps (opening epoch)))) := by
  rw [run, h]
  rfl

lemma fresh_opening (epoch : Timestamp) : (opening epoch).Fresh config :=
  ⟨⟨[], rfl⟩, rfl, rfl, rfl, rfl, rfl, rfl⟩

/-- What is left of a watchdog that was shut down after a number of heartbeats, in a regime. -/
structure Concluded (beats : ℕ) (r : Regime) (w : World) : Prop where
  holds : w.channel.Holds beats
  heartbeatsSent : w.watchdog.status.heartbeatsSent = beats
  emitFailures : w.watchdog.status.emitFailures = 0
  rejectedDirectives : w.watchdog.status.rejectedDirectives = 0
  intervalMs : w.watchdog.status.intervalMs = r.intervalMs
  onLine : w.watchdog.status.onLine = r.onLine
  foregroundRunning : w.watchdog.status.foregroundRunning = false
  workerAvailable : w.watchdog.status.workerAvailable = true

/-- A world that keeps to the schedule concludes with as many heartbeats as were due. -/
lemma concluded_shutdown (h : w.Keeps config r since? before) (hq : w.Quiet) :
    Concluded (before + World.beatsBy r since? (millis w.now)) r w.shutdown := by
  obtain ⟨hholds, hstatus⟩ := h.shutdown hq
  have hsent := h.heartbeatsSent_eq hq
  refine ⟨hsent ▸ hholds, ?_, ?_, ?_, ?_, ?_, ?_, ?_⟩ <;> rw [hstatus]
  · exact hsent
  · exact h.counts.emitFailures
  · exact h.counts.rejectedDirectives
  · exact congrArg Regime.intervalMs h.regime
  · exact congrArg Regime.onLine h.regime

/-- **The end of a demonstration**, a quarter of its length being `q` milliseconds. -/
lemma concluded_ending (epoch : Timestamp) (q : ℕ) :
    Concluded (q / 2000 + 2 * (q / 1000)) ⟨true, 1000⟩
      (ending (millis (4 * q)) (script q) (opening epoch)) := by
  obtain ⟨hstart, -, hnow⟩ := ((fresh_opening epoch).bind .logger).start valid_config
  obtain ⟨hback, hnow'⟩ := keeps_perform hstart hnow q
  obtain ⟨hlast, hquiet, hnow''⟩ := keeps_waitUntil (t := 4 * q) hback (hnow'.trans_le (by omega))
  have hend := concluded_shutdown hlast hquiet
  have hbeats : q / 2000 + q / 1000 + World.beatsBy ⟨true, 1000⟩ (some (millis (3 * q)))
      (millis (4 * q)) = q / 2000 + 2 * (q / 1000) := by
    have hone : UInt64.toNat 1000 = 1000 := rfl
    have hquarter : 4 * q - 3 * q = q := by omega
    rw [beatsBy_of_onLine, hone, hquarter, Nat.add_assoc, ← Nat.two_mul]
  rwa [hnow'', hbeats] at hend

/-- What is printed after the steps. -/
lemma Concluded.summary_eq {beats : ℕ} (h : Concluded beats r w) :
    summary {} w =
      ["", toString beats ++ " heartbeats emitted:"] ++
        (w.channel.emitted.map fun e => "  " ++ e.time.preciseTimeOfDay ++ " client_heartbeat") ++
        ["", (w.watchdog.status.toJsonWith Timestamp.text).indentedText] := by
  have hlines : (w.channel.emitted.map fun e => "  " ++ e.time.preciseTimeOfDay ++ " " ++ e.name) =
      w.channel.emitted.map fun e => "  " ++ e.time.preciseTimeOfDay ++ " client_heartbeat" := by
    refine List.map_congr_left fun e he => ?_
    rw [(h.holds.heartbeat e (List.mem_reverse.mp he)).1, String.append_assoc]
    rfl
  rw [summary, h.holds.emittedCount, ← hlines]

/-- The status that is printed at the end, with a number of heartbeats. What the script does not
determine is taken from `s`. -/
def lastStatus (beats : ℕ) (s : Status) : Json.Value := .object [
  ("on_line", .bool true),
  ("heartbeat_interval_ms", .int 1000),
  ("foreground_running", .bool false),
  ("worker_available", .bool true),
  ("last_foreground_ping_at", .orNull (fun t => .string t.text) s.lastForegroundPing?),
  ("last_background_ping_at", .orNull (fun t => .string t.text) s.lastBackgroundPing?),
  ("foreground_drift_ms", .orNull .int s.foregroundDriftMs?),
  ("background_drift_ms", .orNull .int s.backgroundDriftMs?),
  ("heartbeats_sent", .int beats),
  ("emit_failures", .int 0),
  ("background_ticks", .int s.backgroundTicks),
  ("rejected_directives", .int 0)]

lemma Concluded.toJsonWith_eq {beats : ℕ} (h : Concluded beats ⟨true, 1000⟩ w) :
    w.watchdog.status.toJsonWith Timestamp.text = lastStatus beats w.watchdog.status := by
  rw [Status.toJsonWith, h.onLine, h.intervalMs, h.foregroundRunning, h.workerAvailable,
    h.heartbeatsSent, h.emitFailures, h.rejectedDirectives]
  rfl

/-- **A demonstration from its beginning to its end.**  Whenever three times the length fits into 64
bits, there is the script, and the program succeeds.  In the world `w` at the end:

* the channel has recorded one heartbeat for every eight seconds of the length and two for every
  four, rounded down, and nothing else;
* the status counts just these heartbeats, no failure and no malformed directive; the interval is
  the second that the server has asked for, the network is there, and the foreground timer has been
  stopped.

The command prints a line for each step, the number of heartbeats, a line for each of them, and a
text of the status in JSON.  (The lines of the log are left out here.)

Every tick is served at the instant at which it is due.  Only when the length is a multiple of four
is there a tick and a step of the script at one instant; in virtual time the tick comes first. -/
theorem heartbeats_of_length {seconds : UInt64} (fits : 3 * max seconds.toNat 4 ≤ maxWord)
    (host : Host) :
    let beats := max seconds.toNat 4 / 8 + 2 * (max seconds.toNat 4 / 4)
    let steps := script (250 * max seconds.toNat 4)
    let w := ending (max seconds.toNat 4 * nanosPerSecond) steps (opening host.epoch)
    let status := lastStatus beats w.watchdog.status
    scenario? seconds = some steps ∧
    Program.main host (arguments seconds) = {
      stdout := (steps.map fun step => stepLine step.1 step.2) ++
        ["", toString beats ++ " heartbeats emitted:"] ++
        (w.channel.emitted.map fun e => "  " ++ e.time.preciseTimeOfDay ++ " client_heartbeat") ++
        ["", status.indentedText]
      disk := host.surroundings.disk } ∧
    Json.Spelled status status.indentedText.toList ∧
    w.channel.emittedCount Event.heartbeat = beats ∧ w.channel.emitted.length = beats ∧
    w.watchdog.status.heartbeatsSent = beats ∧ w.watchdog.status.emitFailures = 0 ∧
    w.watchdog.status.rejectedDirectives = 0 ∧ w.watchdog.status.intervalMs = 1000 ∧
    w.watchdog.status.onLine = true ∧ w.watchdog.status.foregroundRunning = false := by
  intro beats steps w status
  have hparse : CommandLine.parse (arguments seconds) = .command (.demo seconds) :=
    CommandLine.parse_demo (parseWord?_toDigits seconds) (CommandLine.looksLikeOption_toDigits _)
  have hscript : scenario? seconds = some steps := scenario?_eq_script fits
  have htotal : max seconds.toNat 4 * nanosPerSecond =
      millis (4 * (250 * max seconds.toNat 4)) := by
    rw [nanosPerSecond, millis, nanosPerMilli]
    omega
  have hbeats :
      250 * max seconds.toNat 4 / 2000 + 2 * (250 * max seconds.toNat 4 / 1000) = beats := by
    omega
  have hend : Concluded beats ⟨true, 1000⟩ w := by
    rw [← hbeats, show w = _ from congrArg (ending · _ _) htotal]
    exact concluded_ending host.epoch (250 * max seconds.toNat 4)
  have hstatus : w.watchdog.status.toJsonWith Timestamp.text = status := hend.toJsonWith_eq
  have hprinted := hend.summary_eq
  rw [hstatus] at hprinted
  refine ⟨hscript, ?_, ?_, hend.holds.emittedCount, ?_, hend.heartbeatsSent, hend.emitFailures,
    hend.rejectedDirectives, hend.intervalMs, hend.onLine, hend.foregroundRunning⟩
  · have hrun := run_of_scenario? hscript host.epoch {}
    have hmain : Program.main host (arguments seconds) = {
        stdout := (steps.map fun step => stepLine step.1 step.2) ++ summary {} w
        disk := host.surroundings.disk } := by
      simp only [Program.main, hparse, Program.command, hrun]
      rfl
    rw [hmain, hprinted]
    simp only [List.append_assoc]
  · rw [Json.Value.indentedText, String.toList_ofList]
    exact Json.Value.spelled_indentedChars 0 status
  · rw [Loopback.emitted, List.length_reverse, hend.holds.length]

/-- Thirteen seconds of a demonstration. -/
theorem heartbeats_of_thirteen_seconds :
    3 * max (13 : UInt64).toNat 4 ≤ maxWord ∧ scenario? 13 = some (script 3250) ∧
      (ending (13 * nanosPerSecond) (script 3250) (opening .epoch)).channel.emittedCount
        Event.heartbeat = 7 ∧
      "7 heartbeats emitted:" ∈ (Program.main ⟨⟨[], [], ⟨[]⟩, []⟩, .unreachable, .epoch, [], 0⟩
        (arguments 13)).stdout := by
  have fits : 3 * max (13 : UInt64).toNat 4 ≤ maxWord := by decide
  obtain ⟨hscript, hmain, -, hcount, -⟩ :=
    heartbeats_of_length fits ⟨⟨[], [], ⟨[]⟩, []⟩, .unreachable, .epoch, [], 0⟩
  refine ⟨fits, hscript, hcount, ?_⟩
  rw [hmain]
  refine List.mem_append_left _ (List.mem_append_left _ (List.mem_append_right _ ?_))
  exact List.mem_cons_of_mem _ (List.mem_singleton.mpr (by decide))

end LinkWatch.Demo
