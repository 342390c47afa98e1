/-
# Overriding the configuration

Settings from the environment, and from the arguments of a command, replace those of the file one
by one.  When one of them is malformed the ones after it are not looked at, and the ones before
it have already been replaced.
-/
import LinkWatch.Config.Basic
import LinkWatch.Number.Decimal

namespace LinkWatch

/-- Reads a whole number of 64 bits: digits, after a plus sign or not. -/
def parseWord? (s : String) : Option UInt64 :=
  let digits := match s.toList with
    | '+' :: rest => rest
    | cs => cs
  let n := Decimal.ofDigits 0 digits
  if digits ≠ [] ∧ digits.all Char.isDigit ∧ n ≤ maxWord then some (UInt64.ofNat n) else none

/-- A change of the configuration that may fail: the configuration afterwards in either case. -/
abbrev Config.Change := Config → Config × Except ConfigFault Unit

namespace Config.Change

/-- Changes nothing. -/
def keep : Change := fun c => (c, .ok ())

/-- One change after another, unless the first one fails. -/
def andThen (first second : Change) : Change := fun c =>
  match first c with
  | (c, .ok ()) => second c
  | (c, .error fault) => (c, .error fault)

/-- All changes in order, up to the first one that fails. -/
def all : List Change → Change
  | [] => keep
  | first :: rest => first.andThen (all rest)

/-- Sets a field to a value, if there is one and it can be read. -/
def set (value? : Option String) (read : String → Except ConfigFault α)
    (put : α → Config → Config) : Change := fun c =>
  match value? with
  | none => (c, .ok ())
  | some s =>
    match read s with
    | .ok a => (put a c, .ok ())
    | .error fault => (c, .error fault)

end Config.Change

namespace Config

def setServerUrl (s : String) (c : Config) : Config := { c with serverUrl? := some s }

def setTarget (s : String) (c : Config) : Config := { c with probe.target? := some s }

def setInterval (n : UInt64) (c : Config) : Config := { c with heartbeat.intervalMs := n }

def setClock (m : ClockMode) (c : Config) : Config := { c with heartbeat.clock := m }

/-- Reads the interval from the environment. -/
def readInterval (s : String) : Except ConfigFault UInt64 :=
  match parseWord? (Text.trim s) with
  | some n => .ok n
  | none => .error (.intervalNotWhole s)

/-- The variables that hold settings. -/
def variableNames : List String := [
  "NETWATCH_SERVER_URL",
  "NETWATCH_HEARTBEAT_INTERVAL_MS",
  "NETWATCH_BACKGROUND_CLOCK",
  "NETWATCH_PROBE_TARGET"]

/-- The settings of the environment, given by its variables. -/
def applyEnvironment (lookup : String → Option String) : Change :=
  .all [
    .set (lookup "NETWATCH_SERVER_URL") .ok setServerUrl,
    .set (lookup "NETWATCH_HEARTBEAT_INTERVAL_MS") readInterval setInterval,
    .set (lookup "NETWATCH_BACKGROUND_CLOCK") ClockMode.parse setClock,
    .set (lookup "NETWATCH_PROBE_TARGET") .ok setTarget]

/-- Checks the configuration and changes nothing. -/
def check : Change := fun c => (c, c.heartbeat.validate)

/-- The settings that can be given on the command line. -/
structure Arguments where
  url? : Option String := none
  target? : Option String := none
  intervalMs? : Option UInt64 := none
  clock? : Option String := none

/-- The settings of the command line, which are checked together with the others at the end. -/
def applyArguments (a : Arguments) : Change :=
  .all [
    .set a.url? .ok setServerUrl,
    .set a.target? .ok setTarget,
    fun c => ((a.intervalMs?.map fun n => c.setInterval n).getD c, .ok ()),
    .set a.clock? ClockMode.parse setClock,
    check]

end Config

end LinkWatch
