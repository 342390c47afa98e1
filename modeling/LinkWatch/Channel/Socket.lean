/-
# A channel over a socket

One connection with two sides.  The writer hands queued frames to the connection, and the reader
broadcasts the events that come in.  When either side ends the channel is disconnected for good.
-/
import LinkWatch.Channel.Broadcast
import LinkWatch.Channel.Frame
import LinkWatch.Channel.Loopback
import LinkWatch.Network.Address
import LinkWatch.Network.Probe

namespace LinkWatch

/-- What comes in on a connection. -/
inductive Incoming where
  | text (content : String)
  /-- A message of another kind, which is ignored. -/
  | other
  | close
  | failure

/-- A channel over a socket. -/
structure Socket where
  url : String
  connected : Bool := true
  /-- The frames that wait for the writer. -/
  outbound : List String := []
  /-- Whether the writer goes on. -/
  writing : Bool := true
  /-- Whether the reader goes on. -/
  reading : Bool := true
  inbound : Broadcast Event := { capacity := inboundBuffer }

namespace Socket

/-- The name of the channel. -/
def name : String := "websocket"

/-- Opens a channel to an address. -/
def connect (network : Network) (url : String) : Except Fault Socket :=
  match Address.parse url with
  | .error fault => .error (.socket (.address fault))
  | .ok address =>
    match address.endpoint with
    | .error fault => .error (.socket fault)
    | .ok endpoint =>
      match network (endpoint.host ++ ":" ++ toString endpoint.port) with
      | .error fault => .error (.socket (.system fault))
      | .ok () => .ok { url }

/-! ## Sending -/

/-- Queues the frame of an event; this fails once the writer has gone. -/
def enqueue (event : String) (payload? : Option Json.Value) (s : Socket) : Except Fault Socket :=
  if s.writing then .ok { s with outbound := s.outbound ++ [Frame.encode event payload?] }
  else .error (.disconnected s.url)

/-- Sends an event; this fails once the channel is disconnected. -/
def emit (event : String) (payload? : Option Json.Value) (s : Socket) : Except Fault Socket :=
  if s.connected then s.enqueue event payload? else .error (.disconnected s.url)

/-- The writer takes the next frame and hands it to the connection, which takes or refuses it: the
frame, and the channel afterwards. A refusal ends the writer, and what waits is lost. -/
def write? (taken : Bool) (s : Socket) : Option (String × Socket) :=
  match s.writing, s.outbound with
  | true, frame :: rest =>
    some (frame,
      if taken then { s with outbound := rest }
      else { s with outbound := [], writing := false, connected := false })
  | _, _ => none

/-! ## Receiving -/

/-- The reader ends. -/
def stopReading (s : Socket) : Socket := { s with reading := false, connected := false }

/-- The reader takes what came in. A text that is no frame of an event is skipped, and a close or a
failure ends the reader. -/
def receive (s : Socket) (i : Incoming) : Socket :=
  if ¬s.reading then s
  else match i with
    | .text content =>
      match Frame.decode content with
      | .ok event => { s with inbound := s.inbound.send event }
      | .error _ => s
    | .other => s
    | .close | .failure => s.stopReading

/-- The reader takes what came in, in order. -/
def receiveAll (items : List Incoming) (s : Socket) : Socket := items.foldl receive s

end Socket

end LinkWatch
