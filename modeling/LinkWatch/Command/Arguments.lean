/-
# The command line

A command with its options.  An option with a value takes it from the same argument or from the
next one, which then must not look like an option itself.  Arguments are dealt with from left to
right, and the first one that is not understood, or that asks for help, ends the reading.
-/
import LinkWatch.Config.Overrides

namespace LinkWatch.CommandLine

/-! ## Grammars -/

/-- An option with a value. -/
structure Setting where
  long : String
  short : Char
  /-- Whether a value is acceptable. -/
  accepts : String → Bool := fun _ => true

/-- What a command understands. -/
structure Grammar where
  settings : List Setting
  /-- Options without a value. -/
  flags : List String

/-- What was found on a command line. -/
structure Found where
  values : List (String × String) := []
  flags : List String := []

/-- Why a command line is not carried out. -/
inductive Refusal where
  /-- Help was asked for. -/
  | help
  /-- It is not understood. -/
  | usage
deriving DecidableEq

namespace Found

def value? (name : String) (f : Found) : Option String :=
  (f.values.find? (·.1 == name)).map (·.2)

/-- Sets an option, which may not be set already. -/
def set (s : Setting) (value : String) (f : Found) : Except Refusal Found :=
  if (f.value? s.long).isSome ∨ ¬s.accepts value then .error .usage
  else .ok { f with values := f.values ++ [(s.long, value)] }

/-- Sets a flag, which may not be set already. -/
def setFlag (name : String) (f : Found) : Except Refusal Found :=
  if f.flags.contains name then .error .usage else .ok { f with flags := f.flags ++ [name] }

end Found

/-! ## One argument -/

/-- What one argument is. -/
inductive Step where
  | found (f : Found)
  /-- An option whose value is the next argument. -/
  | pending (s : Setting)
  /-- The mark after which there are no options. -/
  | lastOption
  /-- No option at all. -/
  | plain

/-- An option with a value in the same argument, or in the next one. -/
def Found.begin (s : Setting) (value? : Option String) (f : Found) : Except Refusal Step :=
  match value? with
  | some value => (f.set s value).map .found
  | none => .ok (.pending s)

namespace Grammar

/-- An option with a long name, and perhaps a value. -/
def long (g : Grammar) (f : Found) (name : String) (value? : Option String) :
    Except Refusal Step :=
  match g.settings.find? (·.long == name) with
  | some s => f.begin s value?
  | none =>
    if value?.isSome then .error .usage
    else if name = "help" then .error .help
    else if g.flags.contains name then (f.setFlag name).map .found
    else .error .usage

/-- An option with a short name, and perhaps a value right after it. -/
def short (g : Grammar) (f : Found) (name : Char) (rest : List Char) : Except Refusal Step :=
  match g.settings.find? (·.short == name) with
  | some s =>
    f.begin s (match rest with
      | [] => none
      | '=' :: value => some (String.ofList value)
      | value => some (String.ofList value))
  | none => if name = 'h' then .error .help else .error .usage

/-- Reads one argument. -/
def step (g : Grammar) (f : Found) (argument : String) : Except Refusal Step :=
  match argument.toList with
  | ['-', '-'] => .ok .lastOption
  | '-' :: '-' :: cs =>
    let name := String.ofList (cs.takeWhile (· ≠ '='))
    g.long f name (match cs.dropWhile (· ≠ '=') with
      | [] => none
      | _ :: value => some (String.ofList value))
  | '-' :: c :: cs => g.short f c cs
  | _ => .ok .plain

/-- Whether an argument cannot be the value of the option before it. -/
def looksLikeOption (argument : String) : Bool :=
  match argument.toList with
  | '-' :: _ :: _ => true
  | _ => false

/-- Reads the arguments of a command, where `pending?` waits for its value. -/
def read (g : Grammar) : Option Setting → Found → List String → Except Refusal Found
  | none, f, [] => .ok f
  | some _, _, [] => .error .usage
  | some s, f, argument :: rest => do
    if looksLikeOption argument then .error .usage
    else
      let f ← f.set s argument
      read g none f rest
  | none, f, argument :: rest => do
    match ← g.step f argument with
    | .found f => read g none f rest
    | .pending s => read g (some s) f rest
    | .lastOption => if rest = [] then .ok f else .error .usage
    | .plain => .error .usage

end Grammar

/-! ## The commands -/

/-- What the program can be asked to do. -/
inductive Command where
  | run (settings : Config.Arguments)
  | demo (seconds : UInt64)
  | config (init : Bool)
  | version

/-- The flag for the form of the log, which every command understands. -/
def logFlag : String := "log-json"

/-- Whether a text is a whole number of 64 bits. -/
def isWord (s : String) : Bool := (parseWord? s).isSome

def runGrammar : Grammar where
  settings := [
    { long := "url", short := 'u' },
    { long := "probe", short := 'p' },
    { long := "interval-ms", short := 'i', accepts := isWord },
    { long := "clock", short := 'c' }]
  flags := [logFlag]

def demoGrammar : Grammar where
  settings := [{ long := "seconds", short := 's', accepts := isWord }]
  flags := [logFlag]

def configGrammar : Grammar := ⟨[], ["init", logFlag]⟩

def versionGrammar : Grammar := ⟨[], [logFlag]⟩

/-- The seconds that the demonstration lasts if nothing is said. -/
def demoSeconds : UInt64 := 12

/-- The settings that were found for `run`. -/
def runSettings (f : Found) : Config.Arguments where
  url? := f.value? "url"
  target? := f.value? "probe"
  intervalMs? := (f.value? "interval-ms").bind parseWord?
  clock? := f.value? "clock"

/-- What is asked for help. -/
inductive Topic where
  | program
  | run
  | demo
  | config
  | version
  | help
deriving DecidableEq

/-- The topic of a command's name. -/
def Topic.ofName? (name : String) : Option Topic :=
  if name = "run" then some .run
  else if name = "demo" then some .demo
  else if name = "config" then some .config
  else if name = "version" then some .version
  else if name = "help" then some .help
  else none

/-- What a command line asks for. -/
inductive Invocation where
  | command (c : Command)
  | help (topic : Topic)
  | misuse

/-- The command that was found, or what became of it instead. -/
def Invocation.of (topic : Topic) (make : Found → Command) : Except Refusal Found → Invocation
  | .ok f => .command (make f)
  | .error .help => .help topic
  | .error .usage => .misuse

/-- Reads the arguments of a command. -/
def readCommand (topic : Topic) (arguments : List String) : Invocation :=
  match topic with
  | .run => .of .run (fun f => .run (runSettings f)) (runGrammar.read none {} arguments)
  | .demo =>
    .of .demo (fun f => .demo (((f.value? "seconds").bind parseWord?).getD demoSeconds))
      (demoGrammar.read none {} arguments)
  | .config =>
    .of .config (fun f => .config (f.flags.contains "init")) (configGrammar.read none {} arguments)
  | .version => .of .version (fun _ => .version) (versionGrammar.read none {} arguments)
  | .help =>
    match arguments with
    | [] => .help .program
    | [name] => ((Topic.ofName? name).map .help).getD .misuse
    | _ => .misuse
  | .program => .command .version

/-- Reads what stands before the command, and the command. Without one the version is shown. -/
def readFrom (f : Found) : List String → Invocation
  | [] => .command .version
  | argument :: rest =>
    match versionGrammar.step f argument with
    | .error .help => .help .program
    | .error .usage => .misuse
    | .ok (.found f) => readFrom f rest
    | .ok (.pending _) => .misuse
    | .ok .lastOption => if rest = [] then .command .version else .misuse
    | .ok .plain =>
      match Topic.ofName? argument with
      | some topic => readCommand topic rest
      | none => .misuse

/-- Reads a command line. -/
def parse (arguments : List String) : Invocation := readFrom {} arguments

end LinkWatch.CommandLine
