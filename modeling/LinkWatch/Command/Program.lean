/-
# The program

What the commands print and how the program ends, as a function of its command line and of what it
finds around it.

The log is not part of this: it goes to the standard output as well, unless it is turned off, and its
lines stand between those of the commands.  And when the program is aborted, more is said on the
standard error than the message that is kept here.
-/
import LinkWatch.Command.Demo
import LinkWatch.Command.Run
import LinkWatch.Command.Usage

namespace LinkWatch

/-- How the program ended. -/
structure Outcome where
  /-- The exit code; 101 stands for an abort. -/
  code : UInt32 := 0
  /-- What the commands printed, line by line; an item may hold several lines. The lines of the log
  are left out. -/
  stdout : List String := []
  /-- What is said of a failure; when the program was aborted, the message without its place. -/
  stderr : List String := []
  disk : Disk

/-- What the program finds around it. -/
structure Host where
  surroundings : Config.Surroundings
  network : Network := .unreachable
  /-- The moment at which it begins. -/
  epoch : Timestamp := .epoch
  /-- The frames that a server sends. -/
  frames : List String := []
  /-- When it is interrupted, in milliseconds. -/
  interruptedAt : Nat := 0

namespace Report

/-- Indents the lines of a message, the first one by something of its own. -/
def indented (first others message : String) : List String :=
  match message.splitOn "\n" with
  | [] => [first]
  | line :: rest => (first ++ line) :: rest.map (others ++ ·)

/-- The causes, numbered when there are several. -/
def causeLines (causes : List String) : List String :=
  match causes with
  | [cause] => indented "    " "    " cause
  | _ => (causes.zipIdx.map fun (cause, n) =>
      indented (Demo.alignRight 5 (toString n) ++ ": ") "       " cause).flatten

/-- The lines in which a report is printed. -/
def lines (r : Report) : List String :=
  match r.chain with
  | [] => []
  | [message] => ["Error: " ++ message]
  | message :: causes => ["Error: " ++ message, "", "Caused by:"] ++ causeLines causes

end Report

namespace Program

/-- The line that shows the version. -/
def version : String := "netwatch 0.1.0"

/-- The end of a command that printed something and then may have failed. -/
def finish (printed : List String) (disk : Disk) : Except Report Unit → Outcome
  | .ok () => { stdout := printed, disk }
  | .error report => { code := 1, stdout := printed, stderr := report.lines, disk }

/-- The end of a command that prints only when all goes well. -/
def finishWith (disk : Disk) : Except Report (List String) → Outcome
  | .ok printed => finish printed disk (.ok ())
  | .error report => finish [] disk (.error report)

/-- Carries out a command. -/
def command (host : Host) : CommandLine.Command → Outcome
  | .version => { stdout := [version], disk := host.surroundings.disk }
  | .config init =>
    let shown := Config.present init host.surroundings
    finish shown.printed shown.disk shown.result
  | .demo seconds =>
    let disk := host.surroundings.disk
    match Demo.run seconds host.epoch {} with
    | some result => finishWith disk (result.mapError Report.ofFault)
    | none => { code := 101, stderr := [Demo.tooLong], disk }
  | .run settings =>
    finishWith host.surroundings.disk do
      let (c, socket) ← Run.prepare host.network host.surroundings settings
      Run.session host.network c socket host.frames Timestamp.timeOfDay Timestamp.text
        host.interruptedAt

/-- Carries out a command line. The lines that the log adds to the standard output are left out, and
so is what is written to the standard error around the message of an abort. -/
def main (host : Host) (arguments : List String) : Outcome :=
  let disk := host.surroundings.disk
  match CommandLine.parse arguments with
  | .command c => command host c
  | .help topic => { stdout := topic.text, disk }
  | .misuse => { code := 2, stderr := CommandLine.misuseText, disk }

end Program

end LinkWatch
