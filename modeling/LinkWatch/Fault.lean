/-
# What can go wrong

The causes for which an operation fails, grouped by the part of the program that they come
from, with their messages.  A message may be followed by those of the causes beneath it.
-/
import LinkWatch.Json.Error

namespace LinkWatch

/-- Why a configuration is not accepted. -/
inductive ConfigFault where
  | zeroInterval
  | zeroMinimum
  | invertedBounds (low high : UInt64)
  | outsideBounds (interval low high : UInt64)
  | unknownClockMode (name : String)
  /-- The variable with the interval does not hold a whole number of 64 bits. -/
  | intervalNotWhole (value : String)
  | unreadable (path : String) (error : Json.Error)
  | other (message : String)

def ConfigFault.message : ConfigFault → String
  | .zeroInterval => "heartbeat_interval_ms must be greater than zero"
  | .zeroMinimum => "min_interval_ms must be greater than zero"
  | .invertedBounds low high =>
    "min_interval_ms (" ++ toString low ++ ") exceeds max_interval_ms (" ++ toString high ++ ")"
  | .outsideBounds interval low high =>
    "heartbeat_interval_ms (" ++ toString interval ++ ") is outside [" ++ toString low ++ ", " ++
      toString high ++ "]"
  | .unknownClockMode name =>
    "Unknown background clock mode '" ++ name ++ "'. Use thread, task or disabled"
  | .intervalNotWhole value =>
    "NETWATCH_HEARTBEAT_INTERVAL_MS is not an integer: '" ++ value ++ "'"
  | .unreadable path error => "Failed to parse " ++ path ++ ": " ++ error.message
  | .other message => message

/-- Why a frame is not an event, or an event was not sent. -/
inductive ChannelFault where
  | notAList (value : Json.Value)
  | noName
  | other (message : String)

def ChannelFault.message : ChannelFault → String
  | .notAList value => "Expected an event array, got " ++ value.text
  | .noName => "Event frame does not start with an event name"
  | .other message => message

/-- Why there is no background clock. -/
inductive WorkerFault where
  | exited
  | noRuntime
  | other (message : String)

def WorkerFault.message : WorkerFault → String
  | .exited => "background clock has exited"
  | .noRuntime =>
    "no tokio runtime for clock task: there is no reactor running, must be called from the " ++
      "context of a Tokio 1.x runtime"
  | .other message => message

/-- What the operating system refused. -/
inductive SystemFault where
  | isDirectory
  | fileExists
  | notADirectory
  | notUtf8
  | networkUnreachable
  | other (message : String)

def SystemFault.message : SystemFault → String
  | .isDirectory => "Is a directory (os error 21)"
  | .fileExists => "File exists (os error 17)"
  | .notADirectory => "Not a directory (os error 20)"
  | .notUtf8 => "stream did not contain valid UTF-8"
  | .networkUnreachable => "Network is unreachable (os error 101)"
  | .other message => message

/-- Why a text is not an address. -/
inductive AddressFault where
  | empty
  | tooLong
  | badCharacter
  | badFormat
  | badAuthority
  | schemeTooLong
deriving DecidableEq

def AddressFault.message : AddressFault → String
  | .empty => "empty string"
  | .tooLong => "uri too long"
  | .badCharacter => "invalid uri character"
  | .badFormat => "invalid format"
  | .badAuthority => "invalid authority"
  | .schemeTooLong => "scheme too long"

/-- Why no socket can be opened to an address. -/
inductive SocketFault where
  | address (fault : AddressFault)
  | noHost
  | unsupportedScheme
  | system (fault : SystemFault)

/-- The innermost message. -/
def SocketFault.cause : SocketFault → String
  | .address fault => fault.message
  | .noHost => "No host name in the URL"
  | .unsupportedScheme => "URL scheme not supported"
  | .system fault => fault.message

def SocketFault.message (f : SocketFault) : String :=
  (match f with
    | .address _ => "HTTP format error: "
    | .system _ => "IO error: "
    | _ => "URL error: ") ++ f.cause

/-- Why an operation failed. -/
inductive Fault where
  | config (cause : ConfigFault)
  | channel (cause : ChannelFault)
  | disconnected (name : String)
  /-- The text shows what is no interval. -/
  | invalidInterval (shown : String)
  | worker (cause : WorkerFault)
  | stopped
  | system (cause : SystemFault)
  | json (error : Json.Error)
  | socket (cause : SocketFault)

namespace Fault

def message : Fault → String
  | .config cause => "Configuration error: " ++ cause.message
  | .channel cause => "Channel error: " ++ cause.message
  | .disconnected name => "Channel disconnected: " ++ name
  | .invalidInterval shown => "Invalid heartbeat interval: " ++ shown
  | .worker cause => "Worker error: " ++ cause.message
  | .stopped => "Watchdog stopped"
  | .system cause => "IO error: " ++ cause.message
  | .json error => "JSON error: " ++ error.message
  | .socket cause => "WebSocket error: " ++ cause.message

/-- The message, followed by those of the causes beneath it. -/
def chain (f : Fault) : List String :=
  f.message :: match f with
    | .system cause => [cause.message]
    | .json error => [error.message]
    | .socket cause => [cause.message, cause.cause]
    | _ => []

end Fault

/-- The failure of a command: what it was doing, outermost first, and the fault beneath. -/
structure Report where
  context : List String
  fault? : Option Fault

namespace Report

/-- All messages, outermost first. -/
def chain (r : Report) : List String :=
  r.context ++ match r.fault? with
    | some f => f.chain
    | none => []

/-- The messages in one line. -/
def message (r : Report) : String := ": ".intercalate r.chain

/-- The report of a fault without any context. -/
def ofFault (f : Fault) : Report := ⟨[], some f⟩

end Report

/-- Says what a command was doing when it failed. -/
def withContext (context : String) : Except Report α → Except Report α
  | .ok a => .ok a
  | .error r => .error { r with context := context :: r.context }

end LinkWatch
