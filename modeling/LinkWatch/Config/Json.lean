/-
# The configuration in JSON

Every field may be missing and then has its default.  When writing, the address of the server is
left out if there is none, and a missing probe target is written as `null`.
-/
import LinkWatch.Config.Basic

namespace LinkWatch

open Json (Field Value)

/-- A whole number of 64 bits as a JSON value. -/
def word (n : UInt64) : Value := .int n.toNat

namespace HeartbeatConfig

def record : Json.Record HeartbeatConfig HeartbeatConfig where
  name := "WatchdogConfig"
  start := {}
  fields := [
    .of "heartbeat_interval_ms" .uint64 fun n c => { c with intervalMs := n },
    .of "min_interval_ms" .uint64 fun n c => { c with minIntervalMs := n },
    .of "max_interval_ms" .uint64 fun n c => { c with maxIntervalMs := n },
    .of "background_clock" ClockMode.decoder fun mode c => { c with clock := mode },
    .of "log_drift" .bool fun b c => { c with logDrift := b }]
  whole := false
  finish c := .ok c

def toJson (c : HeartbeatConfig) : Value :=
  .object [
    ("heartbeat_interval_ms", word c.intervalMs),
    ("min_interval_ms", word c.minIntervalMs),
    ("max_interval_ms", word c.maxIntervalMs),
    ("background_clock", c.clock.toJson),
    ("log_drift", .bool c.logDrift)]

end HeartbeatConfig

namespace ProbeConfig

def record : Json.Record ProbeConfig ProbeConfig where
  name := "ConnectivityConfig"
  start := {}
  fields := [
    .of "target" (.optional .string) fun s? c => { c with target? := s? },
    .of "poll_interval_ms" .uint64 fun n c => { c with pollIntervalMs := n },
    .of "timeout_ms" .uint64 fun n c => { c with timeoutMs := n }]
  whole := false
  finish c := .ok c

def toJson (c : ProbeConfig) : Value :=
  .object [
    ("target", .orNull .string c.target?),
    ("poll_interval_ms", word c.pollIntervalMs),
    ("timeout_ms", word c.timeoutMs)]

end ProbeConfig

namespace Config

def record : Json.Record Config Config where
  name := "Config"
  start := {}
  fields := [
    .of "server_url" (.optional .string) fun s? c => { c with serverUrl? := s? },
    .of "watchdog" HeartbeatConfig.record.decoder fun h c => { c with heartbeat := h },
    .of "connectivity" ProbeConfig.record.decoder fun p c => { c with probe := p }]
  whole := false
  finish c := .ok c

def toJson (c : Config) : Value :=
  .object ((c.serverUrl?.map fun s => ("server_url", Value.string s)).toList ++
    [("watchdog", c.heartbeat.toJson), ("connectivity", c.probe.toJson)])

/-- The text of a configuration file. -/
def fileText (c : Config) : String := c.toJson.indentedText

end Config

end LinkWatch
