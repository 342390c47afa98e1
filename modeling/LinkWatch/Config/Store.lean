/-
# Where the configuration is kept

A file in a directory below the home directory.  A missing file stands for the defaults.
-/
import LinkWatch.Config.Json
import LinkWatch.Config.Overrides
import LinkWatch.Config.Variables

namespace LinkWatch

/-! ## Files -/

/-- What there is at a path. -/
inductive Entry where
  | directory
  /-- A file with a text. -/
  | text (content : String)
  /-- A file that is no text, with those lines at its front that are. -/
  | binary (front : String)

namespace Entry

/-- The lines of a file, each with its line end; `line` is what came before, reversed. -/
def byteLines (line : List UInt8) : List UInt8 → List (List UInt8)
  | [] => if line = [] then [] else [line.reverse]
  | b :: rest =>
    if b = 0x0a then (b :: line).reverse :: byteLines [] rest else byteLines (b :: line) rest

/-- The lines at the front that are texts. -/
def textLines : List (List UInt8) → String
  | [] => ""
  | line :: rest =>
    match String.fromUTF8? ⟨line.toArray⟩ with
    | some s => s ++ textLines rest
    | none => ""

/-- The file with the given bytes. -/
def ofBytes (bytes : ByteArray) : Entry :=
  match String.fromUTF8? bytes with
  | some s => .text s
  | none => .binary (textLines (byteLines [] bytes.toList))

/-- What a reader that goes line by line gets of a file before it fails or comes to the end. -/
def front? : Entry → Option String
  | .directory => none
  | .text content => some content
  | .binary front => some front

end Entry

/-- A path relative to the working directory, as the names on the way. -/
abbrev Path := List String

/-- The text of a path. -/
def pathText (p : Path) : String := "/".intercalate p

/-- Files and directories by their paths; a directory above an entry need not be listed. -/
structure Disk where
  entries : List (Path × Entry)

namespace Disk

/-- What there is at a path. -/
def get? (p : Path) (d : Disk) : Option Entry :=
  match d.entries.find? (·.1 == p) with
  | some (_, e) => some e
  | none => if p = [] ∨ d.entries.any fun (q, _) => p.isPrefixOf q then some .directory else none

/-- Whether there is a file at a path. -/
def isFile (p : Path) (d : Disk) : Bool :=
  match d.get? p with
  | some .directory => false
  | some _ => true
  | none => false

/-- Replaces what there is at a path. -/
def put (p : Path) (e : Entry) (d : Disk) : Disk :=
  ⟨(p, e) :: d.entries.filter (·.1 != p)⟩

/-- The paths above a path, the longest first. -/
def above (p : Path) : List Path := (List.range p.length).reverse.map p.take

/-- Writes a file, making the directories above it. -/
def write (p : Path) (content : String) (d : Disk) : Except SystemFault Disk :=
  if d.isFile p.dropLast then .error .fileExists
  else if (above p).any d.isFile then .error .notADirectory
  else match d.get? p with
    | some .directory => .error .isDirectory
    | _ => .ok (d.put p (.text content))

end Disk

namespace Config

/-! ## Loading and saving -/

/-- The directory of the configuration, in the home directory. -/
def directory (home : Path) : Path := home ++ [".netwatch"]

/-- The file of the configuration. -/
def path (home : Path) : Path := directory home ++ ["config.json"]

/-- Reads the configuration from what there is at a path. -/
def ofEntry (path : String) : Option Entry → Except Fault Config
  | none => .ok {}
  | some .directory => .error (.system .isDirectory)
  | some (.binary _) => .error (.system .notUtf8)
  | some (.text content) =>
    (record.decoder.parse content).mapError fun e => .config (.unreadable path e)

/-- Reads a configuration file. -/
def loadFrom (p : Path) (d : Disk) : Except Fault Config := ofEntry (pathText p) (d.get? p)

/-- Writes a configuration file. -/
def saveTo (p : Path) (c : Config) (d : Disk) : Except Fault Disk :=
  (d.write p c.fileText).mapError .system

/-- What a command finds around it. -/
structure Surroundings where
  /-- The home directory. -/
  home : Path
  /-- The environment variables. -/
  environment : Variables
  disk : Disk
  /-- What there is at the name of the file of environment variables in the directories above the
  working directory, the nearest first. -/
  above : List Entry := []

namespace Surroundings

/-- The file of environment variables in the working directory. -/
def variablesPath : Path := [".env"]

/-- The text of the file of environment variables, up to the first line that is none: the file is
looked for in the working directory and in those above it. -/
def variablesText? (s : Surroundings) : Option String :=
  ((s.disk.get? variablesPath).bind Entry.front?).or (s.above.findSome? Entry.front?)

/-- The environment variables together with those of the file. -/
def allVariables (s : Surroundings) : Variables :=
  match s.variablesText? with
  | some content => s.environment.addFile content
  | none => s.environment

end Surroundings

/-- The configuration of the file, with the settings of the environment, after a check. -/
def load (s : Surroundings) : Except Fault Config := do
  let c ← loadFrom (path s.home) s.disk
  match Change.andThen (applyEnvironment fun name => s.allVariables.get? name) check c with
  | (c, .ok ()) => .ok c
  | (_, .error fault) => .error (.config fault)

end Config

end LinkWatch
