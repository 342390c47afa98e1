/-
# Keeping a heartbeat flowing to a server

Finds the settings, connects, and prints how the watchdog fares until it is interrupted.
-/
import LinkWatch.Channel.Socket
import LinkWatch.Command.Show
import LinkWatch.Simulation.World

namespace LinkWatch.Run

/-! ## Before the watchdog runs -/

/-- The configuration for a run: that of the command, with the settings of the command line. -/
def configure (s : Config.Surroundings) (settings : Config.Arguments) : Except Report Config := do
  let c ← Config.loadForCommand s
  match Config.applyArguments settings c with
  | (c, .ok ()) => .ok c
  | (_, .error fault) => .error (.ofFault (.config fault))

/-- The address of the server. -/
def serverUrl (c : Config) : Except Report String :=
  match c.serverUrl? with
  | some url => .ok url
  | none => .error ⟨["No server URL. Pass --url or set NETWATCH_SERVER_URL"], none⟩

/-- The configuration, and the channel to the server. -/
def prepare (network : Network) (s : Config.Surroundings) (settings : Config.Arguments) :
    Except Report (Config × Socket) := do
  let c ← configure s settings
  let url ← serverUrl c
  let socket ← inContext ("Failed to connect to " ++ url) (Socket.connect network url)
  .ok (c, socket)

/-! ## What is printed -/

/-- What is printed at the beginning. -/
def banner (c : Config) (url : String) : List String := [
  "Server: " ++ url,
  "Probe: " ++ (Probe.ofConfig c.probe).description,
  "Interval: " ++ toString c.heartbeat.intervalMs ++ "ms",
  "",
  "Press Ctrl+C to stop.",
  ""]

/-- A line on the state of the watchdog. -/
def statusLine (time : String) (s : Status) : String :=
  "[" ++ time ++ "] " ++ s.state.name ++ " interval=" ++ toString s.intervalMs ++ "ms sent=" ++
    toString s.heartbeatsSent ++ " failed=" ++ toString s.emitFailures

/-- How far apart these lines are, in milliseconds. -/
def statusEvery : Nat := 30000

/-! ## While the watchdog runs -/

/-- The events in the frames that a server sends; other frames are skipped. -/
def eventsOf (frames : List String) : List Event :=
  frames.filterMap fun frame => (Frame.decode frame).toOption

/-- Prints the state whenever a line is due, `lines` times. -/
def report (timeOfDay : Timestamp → String) :
    Nat → Simulation.World → List String × Simulation.World
  | 0, w => ([], w)
  | lines + 1, w =>
    let w := w.advance statusEvery
    let line := statusLine (timeOfDay (w.moment w.now).wall) w.watchdog.status
    let (rest, w) := report timeOfDay lines w
    (line :: rest, w)

/-- A run that is interrupted after a time in milliseconds, with a server that has sent its frames
by then: what is printed. -/
def session (network : Network) (c : Config) (socket : Socket) (frames : List String)
    (timeOfDay full : Timestamp → String) (ms : Nat) : Except Report (List String) :=
  ((Simulation.World.ofConfig c.heartbeat true).mapError Report.ofFault).map fun w =>
    let w := ((w.bind .logger).start).2
    let w := (w.sendSignals [(Probe.ofConfig c.probe).check network]).2
    let w := (w.inject (eventsOf frames)).2
    let (lines, w) := report timeOfDay (ms / statusEvery) w
    let w := (w.advance (ms % statusEvery)).shutdown
    banner c socket.url ++ lines ++ [(w.watchdog.status.toJsonWith full).indentedText]

end LinkWatch.Run
