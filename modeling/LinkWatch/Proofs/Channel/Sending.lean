/-
# Sending over a socket

Calls that send events, the writer and the reader act at the same time.  A call first looks whether
the channel is connected, and queues its frame later.  The writer takes a frame from the queue and
hands it to the connection, which takes or refuses it some time later.  Either of the two tasks
leaves its loop first and records after it that the channel is disconnected, and the queue stays
open until the writer has closed the connection.  Between any two of these steps others may take
theirs.

With nothing in between, the steps make up the operations of `Socket` (`Exchange.emit_alone`,
`Exchange.write?_alone`, `Exchange.receive_alone`).  In any order, the frames that the writer hands
over are the first of those that were queued, a channel that is disconnected stays so, and a call
that begins after one of the tasks has recorded its end fails and queues nothing
(`Exchange.sending_side`).
-/
import LinkWatch.Channel.Socket
import LinkWatch.Proofs.Steps
import Mathlib.Data.List.Nodup
import Mathlib.Logic.Function.Basic
import Mathlib.Tactic.Common

namespace LinkWatch

/-- Whether the reader leaves its loop for what it finds, which is nothing at the end of the
stream. -/
def Incoming.ends : Option Incoming → Bool
  | none | some .close | some .failure => true
  | some (.text _) | some .other => false

namespace Socket

/-- How far the writer has come. -/
inductive Writer where
  /-- It waits for the next frame. -/
  | waiting
  /-- It has handed a frame to the connection, which has not answered yet. -/
  | sending
  /-- It has left its loop. -/
  | leaving
  /-- It has recorded that the channel is disconnected, and closes the connection. -/
  | closing
  /-- It has gone, and the queue with it. -/
  | gone
deriving DecidableEq

/-- Whether the writer has recorded its end. -/
def Writer.hasRecorded : Writer → Bool
  | .closing | .gone => true
  | _ => false

/-- How far the reader has come. -/
inductive Reader where
  | reading
  /-- It has left its loop. -/
  | leaving
  /-- It has recorded that the channel is disconnected. -/
  | gone
deriving DecidableEq

/-- How far a call has come that sends an event. -/
inductive Call where
  /-- It was not made yet. -/
  | due
  /-- It found the channel connected, and is about to queue the frame. -/
  | admitted
  | returned (result : Except Fault Unit)

end Socket

open Socket (Writer Reader Call)

/-- A channel over a socket, with its two tasks and the calls that are made. -/
structure Exchange (ι : Type) where
  socket : Socket
  writer : Writer := .waiting
  reader : Reader := .reading
  /-- The event that each call is to send. -/
  event : ι → String × Option Json.Value
  call : ι → Call := fun _ => .due
  /-- The calls that have queued a frame, in this order. -/
  queued : List ι := []
  /-- The frames that the writer has handed to the connection, in this order. -/
  handed : List String := []

namespace Exchange

/-- A step of a call or of one of the tasks. -/
inductive Move (ι : Type) where
  /-- A call begins: it looks whether the channel is connected. -/
  | look (i : ι)
  /-- A call queues its frame. -/
  | queue (i : ι)
  /-- The writer takes the next frame and hands it to the connection. -/
  | take
  /-- The connection has taken the frame, or refused it. -/
  | answer (taken : Bool)
  /-- The writer leaves its loop. -/
  | leave
  /-- The writer records its end. -/
  | record
  /-- The writer is gone. -/
  | vanish
  /-- The reader takes what came in, or finds the end of the stream. -/
  | receive (found : Option Incoming)
  /-- The reader records its end. -/
  | retire

variable {ι : Type}

/-- The frame that a call is to queue. -/
def frame (s : Exchange ι) (i : ι) : String := Frame.encode (s.event i).1 (s.event i).2

variable [DecidableEq ι]

/-- A call comes to another point. -/
def moveCall (s : Exchange ι) (i : ι) (c : Call) : Exchange ι :=
  { s with call := Function.update s.call i c }

/-- What comes of a step, if it can be taken. -/
def next? (s : Exchange ι) : Move ι → Option (Exchange ι)
  | .look i =>
    match s.call i with
    | .due =>
      some (s.moveCall i (if s.socket.connected then .admitted
        else .returned (.error (.disconnected s.socket.url))))
    | _ => none
  | .queue i =>
    match s.call i with
    | .admitted =>
      match s.socket.enqueue (s.event i).1 (s.event i).2 with
      | .ok socket =>
        some { s.moveCall i (.returned (.ok ())) with socket, queued := s.queued ++ [i] }
      | .error fault => some (s.moveCall i (.returned (.error fault)))
    | _ => none
  | .take =>
    match s.writer, s.socket.outbound with
    | .waiting, frame :: rest =>
      some { s with
        writer := .sending, socket.outbound := rest, handed := s.handed ++ [frame] }
    | _, _ => none
  | .answer taken =>
    if s.writer = .sending then
      some { s with writer := if taken then .waiting else .leaving }
    else none
  | .leave => if s.writer = .waiting then some { s with writer := .leaving } else none
  | .record =>
    if s.writer = .leaving then some { s with writer := .closing, socket.connected := false }
    else none
  | .vanish =>
    if s.writer = .closing then
      some { s with writer := .gone, socket.writing := false, socket.outbound := [] }
    else none
  | .receive found =>
    if s.reader = .reading then
      some (if Incoming.ends found then { s with reader := .leaving }
        else { s with socket := s.socket.receiveAll found.toList })
    else none
  | .retire =>
    if s.reader = .leaving then some { s with reader := .gone, socket := s.socket.stopReading }
    else none

/-- What comes of steps, one after the other, if all of them can be taken. -/
def after? (s : Exchange ι) (ks : List (Move ι)) : Option (Exchange ι) := runSteps? next? s ks

/-- The exchange over a channel that was just opened, with the events that are to be sent. -/
def opening (socket : Socket) (event : ι → String × Option Json.Value) : Exchange ι :=
  { socket, event }

/-! ## The ways of a step -/

/-- The ways in which a step is taken. -/
inductive Step (s : Exchange ι) : Move ι → Exchange ι → Prop
  | enter {i : ι} (due : s.call i = .due) (connected : s.socket.connected = true) :
    Step s (.look i) (s.moveCall i .admitted)
  | refuse {i : ι} (due : s.call i = .due) (connected : s.socket.connected = false) :
    Step s (.look i) (s.moveCall i (.returned (.error (.disconnected s.socket.url))))
  | queue {i : ι} (admitted : s.call i = .admitted) (writing : s.socket.writing = true) :
    Step s (.queue i) { s.moveCall i (.returned (.ok ())) with
      socket := { s.socket with outbound := s.socket.outbound ++ [s.frame i] }
      queued := s.queued ++ [i] }
  | lose {i : ι} (admitted : s.call i = .admitted) (writing : s.socket.writing = false) :
    Step s (.queue i) (s.moveCall i (.returned (.error (.disconnected s.socket.url))))
  | take {frame : String} {rest : List String} (writer : s.writer = .waiting)
      (outbound : s.socket.outbound = frame :: rest) :
    Step s .take { s with
      writer := .sending, socket.outbound := rest, handed := s.handed ++ [frame] }
  | taken (writer : s.writer = .sending) : Step s (.answer true) { s with writer := .waiting }
  | refused (writer : s.writer = .sending) : Step s (.answer false) { s with writer := .leaving }
  | leave (writer : s.writer = .waiting) : Step s .leave { s with writer := .leaving }
  | record (writer : s.writer = .leaving) :
    Step s .record { s with writer := .closing, socket.connected := false }
  | vanish (writer : s.writer = .closing) :
    Step s .vanish { s with writer := .gone, socket.writing := false, socket.outbound := [] }
  | hear {found : Option Incoming} (reader : s.reader = .reading) (inbound : Broadcast Event) :
    Step s (.receive found) { s with socket.inbound := inbound }
  | hangUp {found : Option Incoming} (reader : s.reader = .reading) :
    Step s (.receive found) { s with reader := .leaving }
  | retire (reader : s.reader = .leaving) :
    Step s .retire { s with reader := .gone, socket := s.socket.stopReading }

variable {s t u : Exchange ι} {k : Move ι} {ks ls : List (Move ι)} {i : ι}

/-- What does not end the reader is broadcast at most. -/
lemma exists_receiveAll_eq (socket : Socket) {found : Option Incoming}
    (h : Incoming.ends found = false) :
    ∃ inbound, socket.receiveAll found.toList = { socket with inbound } := by
  obtain _ | x := found
  · cases h
  cases x with
  | close | failure => cases h
  | other => exact ⟨socket.inbound, by simp [Socket.receiveAll, Socket.receive]⟩
  | text content =>
    simp only [Socket.receiveAll, Option.toList_some, List.foldl_cons, List.foldl_nil,
      Socket.receive]
    split
    · exact ⟨_, rfl⟩
    · split <;> exact ⟨_, rfl⟩

lemma step_of_next? (h : s.next? k = some t) : s.Step k t := by
  cases k with
  | look i =>
    rw [next?] at h
    split at h <;> cases h
    next hdue =>
      cases hc : s.socket.connected
      · exact .refuse hdue hc
      · exact .enter hdue hc
  | queue i =>
    rw [next?] at h
    split at h
    next hadmitted =>
      by_cases hw : s.socket.writing = true
      · rw [Socket.enqueue, if_pos hw] at h
        cases h
        exact .queue hadmitted hw
      · rw [Socket.enqueue, if_neg hw] at h
        cases h
        exact .lose hadmitted (Bool.eq_false_iff.mpr hw)
    next => cases h
  | take =>
    rw [next?] at h
    split at h <;> cases h
    next hwriter houtbound => exact .take hwriter houtbound
  | answer taken =>
    rw [next?] at h
    split at h <;> cases h
    next hwriter =>
      cases taken
      · exact .refused hwriter
      · exact .taken hwriter
  | leave =>
    rw [next?] at h
    split at h <;> cases h
    next hwriter => exact .leave hwriter
  | record =>
    rw [next?] at h
    split at h <;> cases h
    next hwriter => exact .record hwriter
  | vanish =>
    rw [next?] at h
    split at h <;> cases h
    next hwriter => exact .vanish hwriter
  | receive found =>
    rw [next?] at h
    split at h <;> cases h
    next hreader =>
      cases hends : Incoming.ends found with
      | true => exact .hangUp hreader
      | false =>
        obtain ⟨inbound, heq⟩ := exists_receiveAll_eq s.socket hends
        rw [if_neg Bool.false_ne_true, heq]
        exact .hear hreader inbound
  | retire =>
    rw [next?] at h
    split at h <;> cases h
    next hreader => exact .retire hreader

/-! ## Operations with nothing in between -/

/-- A call with nothing in between does what sending an event does. -/
theorem emit_alone (due : s.call i = .due) :
    match s.socket.emit (s.event i).1 (s.event i).2 with
    | .ok socket => s.after? [.look i, .queue i] =
        some { s.moveCall i (.returned (.ok ())) with socket, queued := s.queued ++ [i] }
    | .error fault =>
      s.after? (if s.socket.connected then [.look i, .queue i] else [.look i]) =
        some (s.moveCall i (.returned (.error fault))) := by
  cases hc : s.socket.connected with
  | false => simp [Socket.emit, hc, after?, next?, due]
  | true =>
    cases hw : s.socket.writing <;>
      simp [Socket.emit, Socket.enqueue, hc, hw, after?, next?, due, moveCall]

/-- The writer with nothing in between does what writing a frame does. -/
theorem write?_alone (waiting : s.writer = .waiting)
    (writing : s.socket.writing = true) (taken : Bool) :
    (s.after? (if taken then [.take, .answer true]
        else [.take, .answer false, .record, .vanish])).map (fun t => (t.handed, t.socket)) =
      (s.socket.write? taken).map fun (frame, socket) => (s.handed ++ [frame], socket) := by
  cases ho : s.socket.outbound <;> cases taken <;>
    simp [Socket.write?, after?, next?, waiting, writing, ho]

/-- The reader with nothing in between does what receiving does. -/
theorem receive_alone (reader : s.reader = .reading) (reading : s.socket.reading = true)
    (x : Incoming) :
    (s.after? (.receive (some x) :: if Incoming.ends (some x) then [.retire] else [])).map
      (·.socket) = some (s.socket.receive x) := by
  cases x <;>
    simp [after?, next?, reader, Incoming.ends, Socket.receiveAll, Socket.receive, reading]

/-! ## What every step keeps -/

/-- Whether one of the tasks has recorded its end. -/
def hasRecorded (s : Exchange ι) : Bool := s.writer.hasRecorded || s.reader = .gone

/-- What is known of a channel that was opened at an address. -/
structure Sound (url : String) (event : ι → String × Option Json.Value) (s : Exchange ι) :
    Prop where
  url_eq : s.socket.url = url
  event_eq : s.event = event
  /-- Until the writer is gone, a frame that was queued was handed over or still waits. -/
  waiting : s.writer ≠ .gone → s.queued.map s.frame = s.handed ++ s.socket.outbound
  handed : s.handed <+: s.queued.map s.frame
  writing : s.socket.writing = true ↔ s.writer ≠ .gone
  recorded : s.hasRecorded → s.socket.connected = false
  queued : ∀ i, i ∈ s.queued ↔ s.call i = .returned (.ok ())
  nodup : s.queued.Nodup
  failed : ∀ i fault, s.call i = .returned (.error fault) → fault = .disconnected url

namespace Step

lemma url (h : s.Step k t) : t.socket.url = s.socket.url := by
  cases h <;> rfl

lemma event (h : s.Step k t) : t.event = s.event := by
  cases h <;> rfl

/-- A channel that is disconnected stays so. -/
lemma connected (h : s.Step k t) (hs : s.socket.connected = false) :
    t.socket.connected = false := by
  cases h <;> first | exact hs | rfl

/-- A task that records its end disconnects the channel. -/
lemma recorded (h : s.Step k t) (ht : t.hasRecorded) :
    s.hasRecorded ∨ t.socket.connected = false := by
  cases h with
  | record | retire => exact .inr rfl
  | vanish writer => simp [hasRecorded, writer, Writer.hasRecorded]
  | take writer | taken writer | refused writer | leave writer =>
    left
    simpa [hasRecorded, writer, Writer.hasRecorded] using ht
  | hangUp reader =>
    left
    simpa [hasRecorded, reader] using ht
  | _ => exact .inl ht

/-- The queue is open until the writer is gone. -/
lemma writing (h : s.Step k t) (hs : s.socket.writing = true ↔ s.writer ≠ .gone) :
    t.socket.writing = true ↔ t.writer ≠ .gone := by
  cases h with
  | vanish => simp
  | take writer | taken writer | refused writer | leave writer | record writer =>
    simpa [writer] using hs
  | _ => exact hs

/-- A frame is queued at the end of the queue and handed over from its front. -/
lemma waiting (h : s.Step k t)
    (hs : s.writer ≠ .gone → s.queued.map s.frame = s.handed ++ s.socket.outbound)
    (ht : t.writer ≠ .gone) : t.queued.map t.frame = t.handed ++ t.socket.outbound := by
  cases h with
  | @queue i =>
    have hqueued :
        (s.queued ++ [i]).map s.frame = s.handed ++ (s.socket.outbound ++ [s.frame i]) := by
      rw [List.map_append, hs ht, List.append_assoc]
      rfl
    exact hqueued
  | take writer outbound =>
    have hqueued := hs (by simp [writer])
    rw [outbound] at hqueued
    exact hqueued.trans (List.append_cons ..)
  | taken writer | refused writer | leave writer | record writer => exact hs (by simp [writer])
  | vanish => exact absurd rfl ht
  | _ => exact hs ht

/-- What was handed over stays the first part of what was queued. -/
lemma handed (h : s.Step k t)
    (hs : s.writer ≠ .gone → s.queued.map s.frame = s.handed ++ s.socket.outbound)
    (hp : s.handed <+: s.queued.map s.frame) : t.handed <+: t.queued.map t.frame := by
  cases h with
  | queue => exact hp.trans (List.map_append ▸ List.prefix_append ..)
  | take writer outbound =>
    have hqueued := hs (by simp [writer])
    rw [outbound] at hqueued
    exact ⟨_, (List.append_cons ..).symm.trans hqueued.symm⟩
  | _ => exact hp

/-- Just those calls succeed that have queued a frame. -/
lemma queued (h : s.Step k t) (hs : ∀ i, i ∈ s.queued ↔ s.call i = .returned (.ok ())) (i : ι) :
    i ∈ t.queued ↔ t.call i = .returned (.ok ()) := by
  cases h with
  | @enter j due | @refuse j due | @lose j due =>
    by_cases hij : i = j
    · subst hij
      simp [moveCall, hs, due]
    · simp [moveCall, hs, hij]
  | @queue j =>
    by_cases hij : i = j
    · simp [moveCall, hij]
    · simp [moveCall, hs, hij]
  | _ => exact hs i

/-- A call queues at most one frame. -/
lemma nodup (h : s.Step k t) (hs : ∀ i, i ∈ s.queued ↔ s.call i = .returned (.ok ()))
    (hn : s.queued.Nodup) : t.queued.Nodup := by
  cases h with
  | @queue i admitted =>
    have hi : i ∉ s.queued := by simp [hs, admitted]
    have hconcat := hn.concat hi
    rw [List.concat_eq_append] at hconcat
    exact hconcat
  | _ => exact hn

/-- A call fails for no other reason than that the channel is disconnected. -/
lemma failed (h : s.Step k t)
    (hs : ∀ i fault, s.call i = .returned (.error fault) → fault = .disconnected s.socket.url)
    (i : ι) (fault : Fault) (hi : t.call i = .returned (.error fault)) :
    fault = .disconnected t.socket.url := by
  rw [h.url]
  cases h with
  | @enter j | @refuse j | @queue j | @lose j =>
    by_cases hij : i = j
    · subst hij
      simp_all [moveCall]
    · exact hs i fault (by simpa [moveCall, hij] using hi)
  | _ => exact hs i fault hi

/-- A call that was not made yet, or was refused, stays so, or is refused now. -/
lemma refused_of_disconnected (h : s.Step k t) (hs : s.socket.connected = false) {i : ι}
    (hi : s.call i = .due ∨ s.call i = .returned (.error (.disconnected s.socket.url))) :
    t.call i = .due ∨ t.call i = .returned (.error (.disconnected t.socket.url)) := by
  rw [h.url]
  cases h with
  | @enter j due connected => simp [hs] at connected
  | @refuse j =>
    by_cases hij : i = j
    · simp [moveCall, hij]
    · simpa [moveCall, hij] using hi
  | @queue j admitted | @lose j admitted =>
    have hij : i ≠ j := by
      rintro rfl
      simp [admitted] at hi
    simpa [moveCall, hij] using hi
  | _ => exact hi

end Step

namespace Sound

variable {url : String} {event : ι → String × Option Json.Value}

/-- **A step keeps what is known of the channel.** -/
lemma next (hs : s.Sound url event) (h : s.next? k = some t) : t.Sound url event := by
  have hstep := step_of_next? h
  refine ⟨hstep.url.trans hs.url_eq, hstep.event.trans hs.event_eq, hstep.waiting hs.waiting,
    hstep.handed hs.waiting hs.handed, hstep.writing hs.writing, fun hr => ?_,
    hstep.queued hs.queued, hstep.nodup hs.queued hs.nodup, ?_⟩
  · exact (hstep.recorded hr).elim (fun hr => hstep.connected (hs.recorded hr)) id
  · rw [← hs.url_eq, ← hstep.url]
    exact hstep.failed (hs.url_eq ▸ hs.failed)

end Sound

/-! ## Channels that were opened -/

variable {network : Network} {url : String} {socket : Socket}
  {event : ι → String × Option Json.Value}

lemma eq_of_connect (h : Socket.connect network url = .ok socket) : socket = { url } := by
  unfold Socket.connect at h
  split at h
  · cases h
  split at h
  · cases h
  split at h <;> cases h
  rfl

omit [DecidableEq ι] in
/-- A channel that was just opened is connected, and nothing was queued. -/
lemma sound_opening (h : Socket.connect network url = .ok socket) :
    (opening socket event).Sound url event := by
  obtain rfl := eq_of_connect h
  exact ⟨rfl, rfl, fun _ => rfl, List.prefix_rfl, ⟨nofun, fun _ => rfl⟩, nofun,
    fun i => ⟨nofun, nofun⟩, List.nodup_nil, nofun⟩

/-- From the moment at which the channel is disconnected, it stays so, and a call that was not made
before is refused. -/
lemma Sound.refused (h : t.Sound url event) (ht : t.socket.connected = false)
    (hlater : t.after? ls = some u) (hi : t.call i = .due) :
    u.call i = .due ∨ u.call i = .returned (.error (.disconnected url)) := by
  let Refused (v : Exchange ι) : Prop := v.socket.connected = false ∧ v.socket.url = url ∧
    (v.call i = .due ∨ v.call i = .returned (.error (.disconnected v.socket.url)))
  have hrefused : Refused u := by
    refine runSteps?_induction (fun s k v hs hk => ?_) ⟨ht, h.url_eq, .inl hi⟩ hlater
    have hstep := step_of_next? hk
    exact ⟨hstep.connected hs.1, hstep.url.trans hs.2.1, hstep.refused_of_disconnected hs.1 hs.2.2⟩
  exact hrefused.2.1 ▸ hrefused.2.2

/-- **The sending side of a channel.**  Take a channel that was opened, any calls that send events,
and any order of the steps of the calls and of the two tasks:

* the frames that the writer has handed to the connection are the first of those that were queued,
  in this order, and until the writer is gone the others still wait;
* each call has queued at most one frame, the one of its own event, and just those have that
  succeeded; a call that failed found the channel disconnected;
* a task that has recorded its end has disconnected the channel;
* once it is disconnected the channel stays so, and a call that begins later queues nothing: its
  first step is to fail, the channel being disconnected;
* a call that has its steps with nothing in between sends its event as `Socket.emit` does, and a
  writer that has them so writes the next frame as `Socket.write?` does. -/
theorem sending_side (opened : Socket.connect network url = .ok socket)
    (reached : (opening socket event).after? ks = some t) :
    (t.handed <+: t.queued.map fun i => Frame.encode (event i).1 (event i).2) ∧
    (t.writer ≠ .gone → (t.queued.map fun i => Frame.encode (event i).1 (event i).2) =
      t.handed ++ t.socket.outbound) ∧
    t.queued.Nodup ∧ (∀ i, i ∈ t.queued ↔ t.call i = .returned (.ok ())) ∧
    (∀ i fault, t.call i = .returned (.error fault) → fault = .disconnected url) ∧
    (t.writer.hasRecorded ∨ t.reader = .gone → t.socket.connected = false) ∧
    (t.socket.connected = false → ∀ ls u, t.after? ls = some u → u.socket.connected = false ∧
      ∀ i, t.call i = .due → i ∉ u.queued ∧
        (u.call i = .due → u.next? (.look i) =
          some (u.moveCall i (.returned (.error (.disconnected url))))) ∧
        (u.call i ≠ .due → u.call i = .returned (.error (.disconnected url)))) ∧
    (∀ i, t.call i = .due →
      match t.socket.emit (event i).1 (event i).2 with
      | .ok socket => t.after? [.look i, .queue i] =
          some { t.moveCall i (.returned (.ok ())) with socket, queued := t.queued ++ [i] }
      | .error fault =>
        t.after? (if t.socket.connected then [.look i, .queue i] else [.look i]) =
          some (t.moveCall i (.returned (.error fault)))) ∧
    (t.writer = .waiting → ∀ taken,
      (t.after? (if taken then [.take, .answer true]
          else [.take, .answer false, .record, .vanish])).map (fun u => (u.handed, u.socket)) =
        (t.socket.write? taken).map fun (frame, socket) => (t.handed ++ [frame], socket)) := by
  have hsound : t.Sound url event :=
    runSteps?_induction (fun _ _ _ hs hk => hs.next hk) (sound_opening opened) reached
  have hframe : t.frame = fun i => Frame.encode (event i).1 (event i).2 := by
    funext i
    rw [frame, hsound.event_eq]
  refine ⟨hframe ▸ hsound.handed, hframe ▸ hsound.waiting, hsound.nodup, hsound.queued,
    hsound.failed, fun hr => hsound.recorded (by simpa [hasRecorded] using hr),
    fun hdown ls u hlater => ?_, fun i hdue => hsound.event_eq ▸ emit_alone hdue,
    fun hwaiting => write?_alone hwaiting (hsound.writing.mpr (by simp [hwaiting]))⟩
  have hlast : u.Sound url event :=
    runSteps?_induction (fun _ _ _ hs hk => hs.next hk) hsound hlater
  have hstays : u.socket.connected = false :=
    runSteps?_induction (P := fun s => s.socket.connected = false)
      (fun _ _ _ hs hk => (step_of_next? hk).connected hs) hdown hlater
  refine ⟨hstays, fun i hi => ?_⟩
  have hcall := hsound.refused hdown hlater hi
  refine ⟨?_, fun hdue => ?_, fun hmade => hcall.resolve_left hmade⟩
  · rw [hlast.queued]
    rcases hcall with hdue | hrefused
    · simp [hdue]
    · simp [hrefused]
  · simp [next?, hdue, hstays, hlast.url_eq]

/-- A network in which every connection can be opened, and an address. -/
def everywhere : Network := fun _ => .ok ()

/-- Events that differ in their payloads. -/
def numbered (i : Fin 4) : String × Option Json.Value := ("reading", some (.int i))

/-- Three calls find the channel connected and queue their frames, the last of them when the writer
has recorded its end already, because the connection has refused the first frame. -/
def overtaken : List (Move (Fin 4)) :=
  [.look 0, .look 1, .look 2, .queue 1, .queue 0, .take, .answer false, .record, .queue 2]

theorem sending_side_overtaken :
    Socket.connect everywhere "ws://server/socket" = .ok { url := "ws://server/socket" } ∧
      ∃ t, (opening { url := "ws://server/socket" } numbered).after? overtaken = some t ∧
        t.queued = [1, 0, 2] ∧ t.handed = ["[\"reading\",1]"] ∧ t.socket.connected = false ∧
        t.next? (.look 3) =
          some (t.moveCall 3 (.returned (.error (.disconnected "ws://server/socket")))) := by
  have opened : Socket.connect everywhere "ws://server/socket" =
      .ok { url := "ws://server/socket" } := rfl
  have hview : ((opening { url := "ws://server/socket" } numbered).after? overtaken).map
      (fun t => (t.queued, t.handed, t.writer, t.call 3)) =
        some ([1, 0, 2], ["[\"reading\",1]"], .closing, .due) := rfl
  obtain ⟨t, reached, hview⟩ := Option.map_eq_some_iff.mp hview
  obtain ⟨hqueued, hhanded, hwriter, hcall⟩ : t.queued = [1, 0, 2] ∧
      t.handed = ["[\"reading\",1]"] ∧ t.writer = .closing ∧ t.call 3 = .due := by
    simpa using hview
  obtain ⟨-, -, -, -, -, hrecorded, hlater, -⟩ := sending_side opened reached
  have hdown := hrecorded (.inl (by rw [hwriter]; rfl))
  have hrefused := (hlater hdown [] t rfl).2 3 hcall
  exact ⟨opened, t, reached, hqueued, hhanded, hdown, hrefused.2.1 hcall⟩

end Exchange

end LinkWatch
