/-
# Receiving from a socket

The reader takes what comes in on the connection, one item after the other, and nothing at the end
of the stream.  It broadcasts the events that come as texts, goes on over texts that are no frame
of an event and over messages of other kinds, and leaves its loop for a close, a failure or the end
of the stream.  Some time later it records that the channel is disconnected.  Calls that send
events and the writer take their steps in between, as in `Exchange`.

What was broadcast and whether the reader goes on depend on what it has found so far and on nothing
else (`Exchange.Found`).  So, over any stream, the events that are broadcast, and that a subscriber
finds, are those that come before the first close or failure (`Exchange.receiving_side`).
-/
import LinkWatch.Channel.Socket
import LinkWatch.Proofs.Channel.Sending
import LinkWatch.Proofs.Channel.Unread
import LinkWatch.Proofs.Steps
import Mathlib.Data.List.Infix
import Mathlib.Data.Option.Basic
import Mathlib.Tactic.Common

namespace LinkWatch

namespace Incoming

/-- The event that comes in with a text that is its frame. -/
def event? : Incoming → Option Event
  | .text content => (Frame.decode content).toOption
  | _ => none

/-- The events that come in before the first close or failure, in this order. -/
def events (stream : List Incoming) : List Event :=
  (stream.takeWhile fun x => !ends (some x)).filterMap event?

variable {stream items rest : List Incoming} {x : Incoming}

/-- After the first close or failure no event counts. -/
lemma events_append (h : ∀ x ∈ items, ends (some x) = false)
    (hrest : ∀ x ∈ rest.head?, ends (some x)) :
    events (items ++ rest) = items.filterMap event? := by
  have hnone : rest.takeWhile (fun x => !ends (some x)) = [] := by
    rcases rest with _ | ⟨x, rest⟩
    · rfl
    · simp [hrest x rfl]
  rw [events, List.takeWhile_append_of_pos, hnone, List.append_nil]
  intro x hx
  simp [h x hx]

/-- The items of the stream come before its end. -/
lemma prefix_of_map_some (h : items.map some <+: stream.map some ++ [none]) : items <+: stream := by
  rcases List.prefix_concat_iff.mp h with heq | hprefix
  · have hnone : none ∈ items.map some := by
      rw [heq]
      simp
    simp at hnone
  · exact (List.prefix_map_iff_of_injective (Option.some_injective _)).mp hprefix

/-- What ends the reader is the first close or failure in the stream, or the end of the stream. -/
lemma exists_append_of_prefix {last : Option Incoming} (hlast : ends last)
    (h : items.map some ++ [last] <+: stream.map some ++ [none]) :
    ∃ rest, stream = items ++ rest ∧ ∀ x ∈ rest.head?, ends (some x) := by
  obtain ⟨rest, rfl⟩ := prefix_of_map_some ((List.prefix_append ..).trans h)
  refine ⟨rest, rfl, ?_⟩
  rw [List.map_append, List.append_assoc, List.prefix_append_right_inj] at h
  intro x hx
  obtain ⟨rest', rfl⟩ := List.head?_eq_some_iff.mp hx
  obtain ⟨rfl, -⟩ := List.cons_prefix_cons.mp h
  exact hlast

end Incoming

namespace Socket

/-- What does not end the reader is broadcast if it is the frame of an event, and otherwise changes
nothing. -/
lemma receiveAll_eq {s : Socket} (hs : s.reading = true) {x : Incoming}
    (hx : Incoming.ends (some x) = false) :
    s.receiveAll (some x).toList = { s with inbound := s.inbound.sendAll x.event?.toList } := by
  obtain ⟨url, connected, outbound, writing, reading, inbound⟩ := s
  obtain rfl : reading = true := hs
  cases x with
  | close | failure => cases hx
  | other => rfl
  | text content =>
    cases hdecode : Frame.decode content <;>
      simp [receiveAll, receive, hdecode, Incoming.event?, Broadcast.sendAll, Except.toOption]

end Socket

open Socket (Writer)

namespace Exchange

variable {ι : Type} [DecidableEq ι] {s t : Exchange ι} {k : Move ι} {ks : List (Move ι)}

/-- What the reader finds in a step. -/
def Move.found? : Move ι → Option (Option Incoming)
  | .receive found => some found
  | _ => none

/-- A channel is disconnected just if one of the tasks has recorded its end. -/
lemma Step.connected_eq_false_iff (h : s.Step k t)
    (hs : s.socket.connected = false ↔ s.hasRecorded) :
    t.socket.connected = false ↔ t.hasRecorded := by
  cases h with
  | record | retire => simp [hasRecorded, Writer.hasRecorded, Socket.stopReading]
  | take writer | taken writer | refused writer | leave writer | vanish writer =>
    simpa [hasRecorded, writer, Writer.hasRecorded] using hs
  | hangUp reader => simpa [hasRecorded, reader] using hs
  | _ => exact hs

/-- A step of anyone else changes nothing for the reader. -/
lemma Step.reader (h : s.Step k t) (hk : k.found? = none) :
    (t.reader = .reading ↔ s.reader = .reading) ∧ t.socket.inbound = s.socket.inbound ∧
      (t.reader = .reading → t.socket.reading = s.socket.reading) := by
  cases h with
  | hear | hangUp => cases hk
  | retire reader => simp [reader, Socket.stopReading]
  | _ => exact ⟨Iff.rfl, rfl, fun _ => rfl⟩

/-! ## What the reader has found -/

/-- What is known of a reader that has found some items, and after them what has ended it, if it
does not go on. -/
structure Found (b : Broadcast Event) (found : List (Option Incoming)) (items : List Incoming)
    (s : Exchange ι) : Prop where
  goesOn : ∀ x ∈ items, Incoming.ends (some x) = false
  inbound : s.socket.inbound = b.sendAll (items.filterMap Incoming.event?)
  reading : s.reader = .reading → s.socket.reading = true ∧ found = items.map some
  ended : s.reader ≠ .reading → ∃ last, Incoming.ends last ∧ found = items.map some ++ [last]

variable {b : Broadcast Event} {found : List (Option Incoming)} {items : List Incoming}

/-- **A step keeps what is known of the reader.** -/
lemma Found.next (hs : s.Found b found items) (h : s.next? k = some t) :
    ∃ items', t.Found b (found ++ k.found?.toList) items' := by
  cases hk : k.found? with
  | none =>
    obtain ⟨hreader, hinbound, hreading⟩ := (step_of_next? h).reader hk
    rw [Option.toList_none, List.append_nil]
    refine ⟨items, hs.goesOn, hinbound.trans hs.inbound, ?_, ?_⟩
    · intro ht
      obtain ⟨hsocket, hfound⟩ := hs.reading (hreader.mp ht)
      exact ⟨(hreading ht).trans hsocket, hfound⟩
    · intro ht
      exact hs.ended (mt hreader.mpr ht)
  | some x =>
    cases k <;> cases hk
    rw [next?] at h
    split at h <;> cases h
    next hreader =>
      obtain ⟨hsocket, rfl⟩ := hs.reading hreader
      cases hends : Incoming.ends x with
      | true =>
        refine ⟨items, hs.goesOn, hs.inbound, ?_, ?_⟩
        · intro ht
          cases ht
        · intro _
          exact ⟨x, hends, rfl⟩
      | false =>
        obtain _ | x := x
        · cases hends
        rw [if_neg Bool.false_ne_true, Socket.receiveAll_eq hsocket hends]
        refine ⟨items ++ [x], ?_, ?_, ?_, ?_⟩
        · intro y hy
          rcases List.mem_append.mp hy with hy | hy
          · exact hs.goesOn y hy
          · rwa [List.mem_singleton.mp hy]
        · simp only [hs.inbound, List.filterMap_append, Broadcast.sendAll, List.foldl_append]
          cases hx : x.event? <;> simp [hx]
        · intro _
          exact ⟨hsocket, by simp⟩
        · intro ht
          exact absurd hreader ht

variable {socket : Socket} {event : ι → String × Option Json.Value} {stream : List Incoming}

omit [DecidableEq ι] in
/-- What is known of the reader when a channel was just opened. -/
lemma found_opening (h : socket.reading = true) :
    (opening socket event).Found socket.inbound [] [] :=
  ⟨nofun, rfl, fun _ => ⟨h, rfl⟩, fun hr => absurd rfl hr⟩

/-- **The receiving side of a channel.**  Take a channel on which the reader is about to start, a
stream of items, any order of the steps of the two tasks and of calls, and let what the reader has
found be the first of the stream, and perhaps its end:

* the reader goes on just as long as it has found no close, no failure and not the end of the
  stream, whatever else it has found, and only then it can take the next item;
* by then the events are broadcast, each once and in this order, that came in with the texts so
  far, and no other ones;
* when it does not go on, these are all the events that come before the first close or failure of
  the whole stream;
* it can then record its end, which disconnects the channel;
* the channel is disconnected just if the reader has recorded its end, or the writer;
* a subscriber that had read everything before finds just the events that came in so far, in this
  order; if they are more than the channel keeps, it is told how many it has missed, and finds the
  newest;
* a reader that takes an item, and has its next step with nothing in between, does what
  `Socket.receive` does. -/
theorem receiving_side (connected : socket.connected = true) (reading : socket.reading = true)
    (reached : (opening socket event).after? ks = some t)
    (order : ks.filterMap Move.found? <+: stream.map some ++ [none]) :
    (t.reader = .reading ↔ ∀ x ∈ ks.filterMap Move.found?, Incoming.ends x = false) ∧
    (∀ x, (t.next? (.receive x)).isSome ↔ t.reader = .reading) ∧
    t.socket.inbound = socket.inbound.sendAll
      (Incoming.events (stream.take (ks.filterMap Move.found?).length)) ∧
    (t.reader ≠ .reading →
      t.socket.inbound = socket.inbound.sendAll (Incoming.events stream)) ∧
    (t.reader = .leaving → ∃ u, t.next? .retire = some u ∧ u.reader = .gone ∧
      u.socket.connected = false) ∧
    (t.socket.connected = false ↔ t.reader = .gone ∨ t.writer.hasRecorded) ∧
    (∀ id b, socket.inbound.Made inboundBuffer → socket.inbound.receive? id = some (.nothing, b) →
      let es := Incoming.events (stream.take (ks.filterMap Move.found?).length)
      (t.socket.inbound.drain id).1 =
        (if es.length ≤ inboundBuffer then [] else [.lagged (es.length - inboundBuffer)]) ++
          (es.drop (es.length - inboundBuffer)).map .item) ∧
    (t.reader = .reading → ∀ x,
      (t.after? (.receive (some x) :: if Incoming.ends (some x) then [.retire] else [])).map
        (·.socket) = some (t.socket.receive x)) := by
  obtain ⟨items, hfound⟩ :
      ∃ items, t.Found socket.inbound (ks.filterMap Move.found?) items := by
    refine runSteps?_history (P := fun ks t =>
      ∃ items, t.Found socket.inbound (ks.filterMap Move.found?) items)
      ⟨[], found_opening reading⟩ ?_ reached
    rintro ks t k u ⟨items, ht⟩ hk
    obtain ⟨items', hu⟩ := ht.next hk
    refine ⟨items', ?_⟩
    rw [List.filterMap_append]
    cases hf : k.found? <;> simpa [hf] using hu
  have hrecorded : t.socket.connected = false ↔ t.hasRecorded :=
    runSteps?_induction (P := fun s => s.socket.connected = false ↔ s.hasRecorded)
      (fun _ _ _ hs hk => (step_of_next? hk).connected_eq_false_iff hs)
      (by simp [opening, connected, hasRecorded, Writer.hasRecorded]) reached
  have hinbound : t.socket.inbound = socket.inbound.sendAll
      (Incoming.events (stream.take (ks.filterMap Move.found?).length)) := by
    rw [hfound.inbound]
    by_cases ht : t.reader = .reading
    · obtain ⟨-, heq⟩ := hfound.reading ht
      obtain ⟨rest, rfl⟩ : items <+: stream := Incoming.prefix_of_map_some (heq ▸ order)
      have htake : Incoming.events (items ++ []) = items.filterMap Incoming.event? :=
        Incoming.events_append hfound.goesOn (by simp)
      rw [List.append_nil] at htake
      rw [heq, List.length_map, List.take_left, htake]
    · obtain ⟨last, hlast, heq⟩ := hfound.ended ht
      obtain ⟨rest, rfl, hrest⟩ := Incoming.exists_append_of_prefix hlast (heq ▸ order)
      have hlength : (ks.filterMap Move.found?).length = items.length + 1 := by simp [heq]
      rw [hlength, List.take_length_add_append,
        Incoming.events_append hfound.goesOn (by simpa [List.head?_take] using hrest)]
  refine ⟨?_, ?_, hinbound, ?_, ?_, ?_, ?_, ?_⟩
  · constructor
    · intro ht
      obtain ⟨-, heq⟩ := hfound.reading ht
      rw [heq]
      simpa using hfound.goesOn
    · intro hall
      by_contra ht
      obtain ⟨last, hlast, heq⟩ := hfound.ended ht
      have hno := hall last (by simp [heq])
      rw [hlast] at hno
      cases hno
  · intro x
    rw [next?]
    split <;> simp_all
  · intro ht
    obtain ⟨last, hlast, heq⟩ := hfound.ended ht
    obtain ⟨rest, rfl, hrest⟩ := Incoming.exists_append_of_prefix hlast (heq ▸ order)
    rw [hfound.inbound, Incoming.events_append hfound.goesOn hrest]
  · intro ht
    exact ⟨{ t with reader := .gone, socket := t.socket.stopReading },
      by simp [next?, ht], rfl, rfl⟩
  · simp [hrecorded, hasRecorded, or_comm]
  · intro id b made drained
    rw [hinbound]
    exact made.sound.drain_sendAll (made.sound.position?_of_receive? drained) _
  · intro ht x
    exact receive_alone ht (hfound.reading ht).1 x

/-- Two events come in, with a text that is no frame and a message of another kind in between,
before the server closes the connection, and one event after it. -/
def closing : List Incoming :=
  [.text "[\"notice\",1]", .text "[1", .other, .text " [\"reading\"] ", .close, .text "[\"late\"]"]

/-- The reader takes it all in up to the close, while the writer leaves and records its end. -/
def closed : List (Move Empty) :=
  [.receive closing[0], .receive closing[1], .leave, .receive closing[2], .record,
    .receive closing[3], .receive closing[4], .retire]

/-- A channel that was opened, with a subscriber. -/
def subscribed : Socket where
  url := "ws://server/socket"
  inbound := (Broadcast.subscribe { capacity := inboundBuffer }).2

theorem receiving_side_closed :
    (∃ socket, Socket.connect everywhere "ws://server/socket" = .ok socket ∧
      subscribed = { socket with inbound := socket.inbound.subscribe.2 }) ∧
      ∃ t, (opening subscribed nofun).after? closed = some t ∧
        closed.filterMap Move.found? <+: closing.map some ++ [none] ∧
        t.reader = .gone ∧ t.socket.connected = false ∧
        t.socket.inbound =
          subscribed.inbound.sendAll [⟨"notice", .int 1⟩, ⟨"reading", .null⟩] ∧
        (t.socket.inbound.drain 0).1 = [.item ⟨"notice", .int 1⟩, .item ⟨"reading", .null⟩] := by
  have hevents : Incoming.events closing = [⟨"notice", .int 1⟩, ⟨"reading", .null⟩] := by rfl
  have order : closed.filterMap Move.found? <+: closing.map some ++ [none] := ⟨[_, _], rfl⟩
  obtain ⟨t, reached, hreader⟩ : ∃ t,
      (opening subscribed nofun).after? closed = some t ∧ t.reader = .gone := ⟨_, rfl, rfl⟩
  obtain ⟨-, -, -, hall, -, hconnected, hread, -⟩ := receiving_side rfl rfl reached order
  refine ⟨⟨_, rfl, rfl⟩, t, reached, order, hreader, hconnected.mpr (.inl hreader), ?_, ?_⟩
  · rw [hall (by simp [hreader]), hevents]
  · exact hread 0 _ (.subscribe .new) rfl

end Exchange

end LinkWatch
