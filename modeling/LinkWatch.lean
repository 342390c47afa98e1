import LinkWatch.Main
import LinkWatch.Simulation.ClockAlone
import LinkWatch.Proofs.Config.Bounds
import LinkWatch.Proofs.Heartbeat.Deadline
import LinkWatch.Proofs.Watchdog.Regime
import LinkWatch.Proofs.Watchdog.Turn
import LinkWatch.Proofs.Watchdog.Life
import LinkWatch.Proofs.Watchdog.Consistency
import LinkWatch.Proofs.Heartbeat.Pace
import LinkWatch.Proofs.Watchdog.Commands
import LinkWatch.Proofs.Watchdog.TwoTimers
import LinkWatch.Proofs.Watchdog.Schedule
import LinkWatch.Proofs.Watchdog.Spacing
import LinkWatch.Proofs.Simulation.VirtualTime
import LinkWatch.Proofs.Watchdog.Adoption
import LinkWatch.Proofs.Watchdog.Foreground
import LinkWatch.Proofs.Watchdog.BackgroundDrift
import LinkWatch.Proofs.Watchdog.Simultaneous
import LinkWatch.Proofs.Watchdog.InFlight
import LinkWatch.Proofs.Watchdog.NextTick
import LinkWatch.Proofs.Watchdog.ForegroundDrift
import LinkWatch.Proofs.Watchdog.Calls
import LinkWatch.Proofs.Watchdog.Lifecycle
import LinkWatch.Proofs.Watchdog.Overlap
import LinkWatch.Proofs.Watchdog.NothingNew
import LinkWatch.Proofs.Watchdog.Rounds
import LinkWatch.Proofs.Channel.Unread
import LinkWatch.Proofs.Simulation.Burst
import LinkWatch.Proofs.Watchdog.Accounting
import LinkWatch.Proofs.Json.Moves
import LinkWatch.Proofs.Json.Strings
import LinkWatch.Proofs.Json.Numerals
import LinkWatch.Proofs.Json.ReadBack
import LinkWatch.Proofs.Channel.Frames
import LinkWatch.Proofs.Config.File
import LinkWatch.Proofs.Config.Layers
import LinkWatch.Proofs.Number.Nearest
import LinkWatch.Proofs.Heartbeat.Seconds
import LinkWatch.Proofs.Watchdog.Directive
import LinkWatch.Proofs.Config.Partial
import LinkWatch.Proofs.Config.Effective
import LinkWatch.Proofs.Config.Interrupted
import LinkWatch.Proofs.Channel.Sending
import LinkWatch.Proofs.Network.Patrol
import LinkWatch.Proofs.Watchdog.Probed
import LinkWatch.Proofs.Heartbeat.Clockwork
import LinkWatch.Proofs.Channel.Receiving
import LinkWatch.Proofs.Json.Grammar
import LinkWatch.Proofs.Json.Skipping
import LinkWatch.Proofs.Json.Members
import LinkWatch.Proofs.Config.Abridged
import LinkWatch.Proofs.Command.Script
import LinkWatch.Proofs.Json.Passed
import LinkWatch.Proofs.Json.Accepted
import LinkWatch.Proofs.Channel.Brackets
import LinkWatch.Proofs.Json.Made
import LinkWatch.Proofs.Number.Rounding
import LinkWatch.Proofs.Number.Shortest
import LinkWatch.Proofs.Json.Scaling
import LinkWatch.Proofs.Json.Reals
import LinkWatch.Proofs.Channel.Reencoding
import LinkWatch.Proofs.Command.Demonstration
import LinkWatch.Proofs.Heartbeat.Operations
