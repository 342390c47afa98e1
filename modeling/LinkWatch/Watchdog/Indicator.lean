/-
# Indicators

Whatever shows whether the network is there.  An indicator is told the current value when it is
bound, and then every change, in the order in which the indicators were bound.
-/
namespace LinkWatch

/-- An indicator. -/
inductive Indicator where
  /-- One that is known by a name. -/
  | named (name : String)
  /-- One that writes to the log. -/
  | logger
deriving DecidableEq

/-- An indicator is told a value. -/
structure Notice where
  indicator : Indicator
  online : Bool
deriving DecidableEq

/-- The bound indicators, with the value that they were last told. -/
structure Indicators where
  online : Bool := false
  bound : List Indicator := []

namespace Indicators

/-- Binds an indicator, which is told the current value. -/
def bind (i : Indicator) (s : Indicators) : Notice × Indicators :=
  (⟨i, s.online⟩, { s with bound := s.bound ++ [i] })

/-- Tells all indicators a value. -/
def tell (online : Bool) (s : Indicators) : List Notice × Indicators :=
  (s.bound.map fun i => ⟨i, online⟩, { s with online := online })

end Indicators

end LinkWatch
