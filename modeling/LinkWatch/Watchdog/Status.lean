/-
# The state of the watchdog as others see it
-/
import LinkWatch.Config.Json
import LinkWatch.Time.Timestamp

namespace LinkWatch

/-- Whether the network is there. -/
inductive LinkState where
  | offline
  | online
deriving DecidableEq

namespace LinkState

def ofBool (online : Bool) : LinkState := if online then .online else .offline

def isOnline : LinkState → Bool
  | .offline => false
  | .online => true

def name : LinkState → String
  | .offline => "offline"
  | .online => "online"

/-- A state in JSON is its name. -/
def decoder : Json.Decoder LinkState := .oneOf [("offline", .offline), ("online", .online)]

def toJson (s : LinkState) : Json.Value := .string s.name

end LinkState

/-- A snapshot of the watchdog. -/
structure Status where
  onLine : Bool
  /-- The heartbeat interval in force, in milliseconds. -/
  intervalMs : UInt64
  /-- Whether the foreground timer runs. -/
  foregroundRunning : Bool
  /-- Whether there is a background clock. -/
  workerAvailable : Bool
  /-- When the foreground timer last ticked. -/
  lastForegroundPing? : Option Timestamp
  /-- When the background clock last ticked. -/
  lastBackgroundPing? : Option Timestamp
  /-- How far the last two foreground ticks were from being one interval apart. -/
  foregroundDriftMs? : Option Int
  /-- How far the last two background ticks were from being one interval apart. -/
  backgroundDriftMs? : Option Int
  /-- Heartbeats that the channel took. -/
  heartbeatsSent : Nat
  /-- Heartbeats that the channel refused. -/
  emitFailures : Nat
  /-- Ticks of the background clock. -/
  backgroundTicks : Nat
  /-- Malformed directives of the server. -/
  rejectedDirectives : Nat
deriving DecidableEq

namespace Status

/-- The snapshot before anything happened. -/
def initial (intervalMs : UInt64) (workerAvailable : Bool) : Status where
  onLine := false
  intervalMs := intervalMs
  foregroundRunning := false
  workerAvailable := workerAvailable
  lastForegroundPing? := none
  lastBackgroundPing? := none
  foregroundDriftMs? := none
  backgroundDriftMs? := none
  heartbeatsSent := 0
  emitFailures := 0
  backgroundTicks := 0
  rejectedDirectives := 0

def state (s : Status) : LinkState := .ofBool s.onLine

/-! ## In JSON -/

/-- A snapshot as a JSON object, `stamp` being the way in which moments are written. -/
def toJsonWith (stamp : Timestamp → String) (s : Status) : Json.Value :=
  let moment := Json.Value.orNull fun t => .string (stamp t)
  .object [
    ("on_line", .bool s.onLine),
    ("heartbeat_interval_ms", word s.intervalMs),
    ("foreground_running", .bool s.foregroundRunning),
    ("worker_available", .bool s.workerAvailable),
    ("last_foreground_ping_at", moment s.lastForegroundPing?),
    ("last_background_ping_at", moment s.lastBackgroundPing?),
    ("foreground_drift_ms", .orNull .int s.foregroundDriftMs?),
    ("background_drift_ms", .orNull .int s.backgroundDriftMs?),
    ("heartbeats_sent", .int s.heartbeatsSent),
    ("emit_failures", .int s.emitFailures),
    ("background_ticks", .int s.backgroundTicks),
    ("rejected_directives", .int s.rejectedDirectives)]

/-- A snapshot as a JSON object. -/
def toJson (s : Status) : Json.Value := s.toJsonWith Timestamp.text

/-- The fields of a snapshot as far as they have been read. -/
structure Draft where
  onLine? : Option Bool := none
  intervalMs? : Option UInt64 := none
  foregroundRunning? : Option Bool := none
  workerAvailable? : Option Bool := none
  lastForegroundPing? : Option Timestamp := none
  lastBackgroundPing? : Option Timestamp := none
  foregroundDriftMs? : Option Int := none
  backgroundDriftMs? : Option Int := none
  heartbeatsSent? : Option UInt64 := none
  emitFailures? : Option UInt64 := none
  backgroundTicks? : Option UInt64 := none
  rejectedDirectives? : Option UInt64 := none

/-- A snapshot from its fields. Those that may be `null` may also be missing. -/
def Draft.finish (d : Draft) : Except Json.Cause Status := do
  let onLine ← Json.require "on_line" d.onLine?
  let intervalMs ← Json.require "heartbeat_interval_ms" d.intervalMs?
  let foregroundRunning ← Json.require "foreground_running" d.foregroundRunning?
  let workerAvailable ← Json.require "worker_available" d.workerAvailable?
  let heartbeatsSent ← Json.require "heartbeats_sent" d.heartbeatsSent?
  let emitFailures ← Json.require "emit_failures" d.emitFailures?
  let backgroundTicks ← Json.require "background_ticks" d.backgroundTicks?
  let rejectedDirectives ← Json.require "rejected_directives" d.rejectedDirectives?
  .ok {
    onLine, intervalMs, foregroundRunning, workerAvailable
    lastForegroundPing? := d.lastForegroundPing?
    lastBackgroundPing? := d.lastBackgroundPing?
    foregroundDriftMs? := d.foregroundDriftMs?
    backgroundDriftMs? := d.backgroundDriftMs?
    heartbeatsSent := heartbeatsSent.toNat
    emitFailures := emitFailures.toNat
    backgroundTicks := backgroundTicks.toNat
    rejectedDirectives := rejectedDirectives.toNat }

/-- How a snapshot is read from JSON. -/
def record : Json.Record Draft Status where
  name := "WatchdogStatus"
  start := {}
  fields := [
    .of "on_line" .bool fun b d => { d with onLine? := some b },
    .of "heartbeat_interval_ms" .uint64 fun n d => { d with intervalMs? := some n },
    .of "foreground_running" .bool fun b d => { d with foregroundRunning? := some b },
    .of "worker_available" .bool fun b d => { d with workerAvailable? := some b },
    .of "last_foreground_ping_at" (.optional Timestamp.decoder) fun t? d =>
      { d with lastForegroundPing? := t? },
    .of "last_background_ping_at" (.optional Timestamp.decoder) fun t? d =>
      { d with lastBackgroundPing? := t? },
    .of "foreground_drift_ms" (.optional .int64) fun z? d => { d with foregroundDriftMs? := z? },
    .of "background_drift_ms" (.optional .int64) fun z? d => { d with backgroundDriftMs? := z? },
    .of "heartbeats_sent" .uint64 fun n d => { d with heartbeatsSent? := some n },
    .of "emit_failures" .uint64 fun n d => { d with emitFailures? := some n },
    .of "background_ticks" .uint64 fun n d => { d with backgroundTicks? := some n },
    .of "rejected_directives" .uint64 fun n d => { d with rejectedDirectives? := some n }]
  whole := true
  finish := Draft.finish

end Status

end LinkWatch
