/-
# Help
-/
import LinkWatch.Command.Arguments

namespace LinkWatch.CommandLine

/-- An option in a table, padded to a width, with its description. -/
def optionLine (width : Nat) (name description : String) : String :=
  name ++ String.ofList (List.replicate (width - name.length) ' ') ++ description

def logOption : String := "      --log-json"

def logDescription : String := "Emit logs as JSON lines"

/-- A help text: what the command does, how it is called, and its options in a table. -/
def helpText (about call : String) (width : Nat) (options : List (String × String)) :
    List String :=
  [about, "", "Usage: " ++ call, "", "Options:"] ++
    (options ++ [("  -h, --help", "Print help")]).map fun (name, description) =>
      optionLine width name description

/-- The help on a topic. -/
def Topic.text : Topic → List String
  | .program => [
    "Connectivity watchdog that keeps a server heartbeat alive",
    "",
    "Usage: netwatch [OPTIONS] [COMMAND]",
    "",
    "Commands:",
    "  run      Connect to a server and keep the heartbeat running until Ctrl+C",
    "  demo     Run the watchdog against an in-memory server with a scripted scenario",
    "  config   Show the effective configuration",
    "  version  Show version information",
    "  help     Print this message or the help of the given subcommand(s)",
    "",
    "Options:",
    "      --log-json  Emit logs as JSON lines",
    "  -h, --help      Print help"]
  | .run => helpText "Connect to a server and keep the heartbeat running until Ctrl+C"
    "netwatch run [OPTIONS]" 35 [
    (logOption, logDescription),
    ("  -u, --url <URL>", "WebSocket URL of the server (overrides config)"),
    ("  -p, --probe <PROBE>", "host:port probed for connectivity (overrides config)"),
    ("  -i, --interval-ms <INTERVAL_MS>", "Initial heartbeat interval in milliseconds"),
    ("  -c, --clock <CLOCK>", "Background clock mode: thread, task or disabled")]
  | .demo => helpText "Run the watchdog against an in-memory server with a scripted scenario"
    "netwatch demo [OPTIONS]" 27 [
    (logOption, logDescription),
    ("  -s, --seconds <SECONDS>", "Scenario length in seconds [default: 12]")]
  | .config => helpText "Show the effective configuration" "netwatch config [OPTIONS]" 18 [
    ("      --init", "Write the default configuration file if none exists"),
    (logOption, logDescription)]
  | .version => helpText "Show version information" "netwatch version [OPTIONS]" 18 [
    (logOption, logDescription)]
  | .help => [
    "Print this message or the help of the given subcommand(s)",
    "",
    "Usage: netwatch help [COMMAND]...",
    "",
    "Arguments:",
    "  [COMMAND]...  Print help for the subcommand(s)"]

/-- What is said about a command line that is not understood. -/
def misuseText : List String :=
  ["error: the command line is not understood", "", "For more information, try '--help'."]

end LinkWatch.CommandLine
