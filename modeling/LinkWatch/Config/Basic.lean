/-
# The configuration

The settings of the heartbeat and of the reachability probe, their defaults, and the rules by
which they must agree with each other.
-/
import LinkWatch.Config.ClockMode

namespace LinkWatch

/-- Settings of the heartbeat. Times are in milliseconds. -/
structure HeartbeatConfig where
  /-- The first interval between heartbeats. -/
  intervalMs : UInt64 := 2000
  /-- The shortest interval that the server may set. -/
  minIntervalMs : UInt64 := 100
  /-- The longest interval that the server may set. -/
  maxIntervalMs : UInt64 := 3600000
  clock : ClockMode := .thread
  /-- Whether the offset of each tick from its period is logged. -/
  logDrift : Bool := true
deriving DecidableEq

namespace HeartbeatConfig

/-- An interval, moved into the bounds. When the bounds are inverted the upper one wins, and the
result is never zero. -/
def clamp (c : HeartbeatConfig) (intervalMs : UInt64) : UInt64 :=
  max 1 (min c.maxIntervalMs (max c.minIntervalMs intervalMs))

/-- Checks that the bounds are in order and that the first interval lies between them. -/
def validate (c : HeartbeatConfig) : Except ConfigFault Unit :=
  if c.intervalMs = 0 then .error .zeroInterval
  else if c.minIntervalMs = 0 then .error .zeroMinimum
  else if c.maxIntervalMs < c.minIntervalMs then
    .error (.invertedBounds c.minIntervalMs c.maxIntervalMs)
  else if c.clamp c.intervalMs ≠ c.intervalMs then
    .error (.outsideBounds c.intervalMs c.minIntervalMs c.maxIntervalMs)
  else .ok ()

end HeartbeatConfig

/-- Settings of the reachability probe. Times are in milliseconds. -/
structure ProbeConfig where
  /-- What is probed, as `host:port`; without a target the network counts as reachable. -/
  target? : Option String := none
  pollIntervalMs : UInt64 := 5000
  timeoutMs : UInt64 := 2000
deriving DecidableEq

/-- The whole configuration. -/
structure Config where
  serverUrl? : Option String := none
  heartbeat : HeartbeatConfig := {}
  probe : ProbeConfig := {}
deriving DecidableEq

end LinkWatch
