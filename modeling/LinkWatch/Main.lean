/-
# The command line of the program

Reads what the program finds around it, carries out the command line, and writes what is to be
written.
-/
import LinkWatch.Command.Program

namespace LinkWatch

/-- What there is at a path, if there is anything. -/
def look (p : Path) : IO (List (Path × Entry)) := do
  let name := pathText p
  try
    let bytes ← IO.FS.readBinFile name
    return [(p, .ofBytes bytes)]
  catch
    | .inappropriateType .. => return [(p, .directory)]
    | _ => return []

/-- What a text may refer to: the names after its dollar signs, between braces or not. -/
def mentioned : List Char → List String
  | [] => []
  | '$' :: '{' :: rest => String.ofList (rest.takeWhile (· ≠ '}')) :: mentioned rest
  | '$' :: rest => String.ofList (rest.takeWhile Text.isAlphanumeric) :: mentioned rest
  | _ :: rest => mentioned rest

/-- Those of the given variables that are set. -/
def readVariables (names : List String) : IO Variables := do
  let mut set := []
  for name in names do
    if let some value ← IO.getEnv name then
      set := set ++ [(name, value)]
  return set

/-- What there is at the name of the file of variables in the directories above the working
directory, the nearest first. -/
def readAbove : IO (List Entry) := do
  let depth := ((← IO.currentDir).toString.splitOn "/").countP (· ≠ "")
  let mut found := []
  for n in List.range depth do
    let entries ← look (List.replicate (n + 1) ".." ++ Config.Surroundings.variablesPath)
    found := found ++ entries.map (·.2)
  return found

/-- What there is at the path of the configuration and at the one above it. -/
def lookForConfig (home : Path) : IO (List (Path × Entry)) := do
  match ← look (Config.directory home) with
  | [(p, .directory)] => return (p, .directory) :: (← look (Config.path home))
  | entries => return entries

/-- What the program finds around it, with the variables that hold settings and those that the file
of variables refers to. -/
def readSurroundings : IO Config.Surroundings := do
  let home := ((← IO.getEnv "HOME").getD ".").splitOn "/"
  let entries := (← lookForConfig home) ++ (← look Config.Surroundings.variablesPath)
  let found : Config.Surroundings :=
    { home, environment := [], disk := ⟨entries⟩, above := ← readAbove }
  let names := Config.variableNames ++ mentioned (found.variablesText?.getD "").toList
  return { found with environment := ← readVariables names }

/-- Writes the file of the configuration, if it is new or has changed. -/
def writeBack (home : Path) (before after : Disk) : IO Unit := do
  match before.get? (Config.path home), after.get? (Config.path home) with
  | none, some (.text content) =>
    IO.FS.createDirAll (pathText (Config.directory home))
    IO.FS.writeFile (pathText (Config.path home)) content
  | _, _ => return ()

end LinkWatch

/-- Carries out a command line. -/
def main (arguments : List String) : IO UInt32 := do
  let surroundings ← LinkWatch.readSurroundings
  let outcome := LinkWatch.Program.main { surroundings } arguments
  LinkWatch.writeBack surroundings.home surroundings.disk outcome.disk
  for line in outcome.stdout do
    IO.println line
  for line in outcome.stderr do
    IO.eprintln line
  return outcome.code
