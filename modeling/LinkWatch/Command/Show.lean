/-
# Showing the configuration
-/
import LinkWatch.Config.Store

namespace LinkWatch

/-- What a command that may write files did. -/
structure Shown where
  /-- What was printed. -/
  printed : List String
  disk : Disk
  result : Except Report Unit

/-- A step with the context in which it fails. -/
def inContext (context : String) (r : Except Fault α) : Except Report α :=
  withContext context (r.mapError Report.ofFault)

namespace Config

/-- Writes the default configuration, unless there is something at its path. -/
def initialise (home : Path) (d : Disk) : Except Report (List String × Disk) :=
  let p := path home
  if (d.get? p).isSome then .ok ([], d)
  else
    (inContext ("Failed to write " ++ pathText p) (saveTo p {} d)).map fun d =>
      (["Wrote default configuration to " ++ pathText p], d)

/-- Loads the configuration for a command. -/
def loadForCommand (s : Surroundings) : Except Report Config :=
  inContext "Failed to load configuration" (load s)

/-- Prints the configuration in force, after writing the default one if that is asked for. -/
def present (init : Bool) (s : Surroundings) : Shown :=
  match if init then initialise s.home s.disk else .ok ([], s.disk) with
  | .error report => ⟨[], s.disk, .error report⟩
  | .ok (printed, disk) =>
    match loadForCommand { s with disk } with
    | .error report => ⟨printed, disk, .error report⟩
    | .ok c => ⟨printed ++ ["# " ++ pathText (path s.home), c.fileText], disk, .ok ()⟩

end Config

end LinkWatch
