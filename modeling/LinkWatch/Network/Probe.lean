/-
# The reachability probe

Whether the network is there is found out by opening a connection to a known endpoint, again and
again.  The first result is reported, and after it only those that differ from the one before.
-/
import LinkWatch.Config.Basic

namespace LinkWatch

/-! ## The network -/

/-- A network, as the result of opening a connection to an endpoint `host:port`. -/
abbrev Network := String → Except SystemFault Unit

/-- The network in which nothing can be reached. -/
def Network.unreachable : Network := fun _ => .error .networkUnreachable

/-! ## The probe -/

/-- A probe. Times are in milliseconds. -/
structure Probe where
  target? : Option String
  pollIntervalMs : Nat
  timeoutMs : Nat
  /-- Some time passes between two checks, and a check has some time. -/
  positive : 0 < pollIntervalMs ∧ 0 < timeoutMs

namespace Probe

/-- The probe of a configuration; times of zero are raised to one millisecond. -/
def ofConfig (c : ProbeConfig) : Probe where
  target? := c.target?
  pollIntervalMs := max 1 c.pollIntervalMs.toNat
  timeoutMs := max 1 c.timeoutMs.toNat
  positive := by omega

/-- What is probed, in words. -/
def description (p : Probe) : String := p.target?.getD "none (assuming online)"

/-- One check. Without a target the network counts as reachable. -/
def check (network : Network) (p : Probe) : Bool :=
  match p.target? with
  | none => true
  | some target => (network target).isOk

end Probe

/-! ## Reporting -/

/-- A probe at work: its last result, and whether it goes on. -/
structure Probing where
  last? : Option Bool := none
  running : Bool := true
deriving DecidableEq

namespace Probing

/-- The report that a result leads to, if it is news. -/
def report? (result : Bool) (p : Probing) : Option Bool :=
  if p.running ∧ p.last? ≠ some result then some result else none

/-- A result comes in. A report that nobody receives ends the probing. -/
def turn (heard result : Bool) (p : Probing) : Probing :=
  match p.report? result with
  | some _ => ⟨some result, heard⟩
  | none => p

/-- The reports that results lead to, one for each, as long as somebody receives them. -/
def reports (p : Probing) : List Bool → List (Option Bool)
  | [] => []
  | result :: rest => p.report? result :: reports (p.turn true result) rest

end Probing

end LinkWatch
