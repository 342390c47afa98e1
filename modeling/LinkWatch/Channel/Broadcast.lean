/-
# Broadcasting with a bounded buffer

Every subscriber sees what is sent after it subscribed, in order.  Only the latest items are
kept: a subscriber that is further behind is told how many it has missed and goes on with the
oldest item that is left.
-/
namespace LinkWatch

/-- A subscriber: its number, and how many items had been sent before the next one it reads. -/
structure Subscriber where
  id : Nat
  position : Nat
deriving DecidableEq

/-- A broadcast of items of type `α`. -/
structure Broadcast (α : Type) where
  /-- How many items are kept. -/
  capacity : Nat
  /-- The items that are kept, oldest first. -/
  recent : List α := []
  /-- How many items were sent in all. -/
  sent : Nat := 0
  /-- Whether nothing more will be sent. -/
  closed : Bool := false
  subscribers : List Subscriber := []
  /-- The number of the next subscriber. -/
  nextId : Nat := 0

namespace Broadcast

variable {α : Type}

/-- The number of items that are no longer kept. -/
def forgotten (b : Broadcast α) : Nat := b.sent - b.recent.length

/-- Adds a subscriber. -/
def subscribe (b : Broadcast α) : Nat × Broadcast α :=
  (b.nextId, { b with
    subscribers := b.subscribers ++ [⟨b.nextId, b.sent⟩]
    nextId := b.nextId + 1 })

/-- Removes a subscriber. -/
def unsubscribe (id : Nat) (b : Broadcast α) : Broadcast α :=
  { b with subscribers := b.subscribers.filter (·.id != id) }

/-- Sends an item to all subscribers. -/
def send (a : α) (b : Broadcast α) : Broadcast α :=
  let all := b.recent ++ [a]
  { b with recent := all.drop (all.length - b.capacity), sent := b.sent + 1 }

/-- Sends items in order. -/
def sendAll (items : List α) (b : Broadcast α) : Broadcast α :=
  items.foldl (fun b a => b.send a) b

/-- Says that nothing more will be sent. -/
def close (b : Broadcast α) : Broadcast α := { b with closed := true }

/-- What a subscriber finds. -/
inductive Received (α : Type) where
  | item (a : α)
  /-- Items were missed. -/
  | lagged (missed : Nat)
  /-- Everything was read, and nothing more will come. -/
  | closed
  /-- Everything was read so far. -/
  | nothing

/-- What a subscriber at a position finds, and its position afterwards. -/
def look (b : Broadcast α) (position : Nat) : Received α × Nat :=
  if position < b.forgotten then (.lagged (b.forgotten - position), b.forgotten)
  else match b.recent[position - b.forgotten]? with
    | some a => (.item a, position + 1)
    | none => (if b.closed then .closed else .nothing, position)

/-- What a subscriber finds, and the broadcast afterwards; nothing at all if there is no such
subscriber. -/
def receive? (id : Nat) (b : Broadcast α) : Option (Received α × Broadcast α) :=
  (b.subscribers.find? (·.id == id)).map fun s =>
    let (received, position) := b.look s.position
    (received, { b with
      subscribers := b.subscribers.map fun t => if t.id = id then ⟨id, position⟩ else t })

/-- Everything that a subscriber finds until nothing is left, in at most a number of looks. -/
def drainIn (id : Nat) : Nat → Broadcast α → List (Received α) × Broadcast α
  | 0, b => ([], b)
  | looks + 1, b =>
    match b.receive? id with
    | none => ([], b)
    | some (.nothing, b) => ([], b)
    | some (.closed, b) => ([.closed], b)
    | some (received, b) =>
      let (rest, b) := drainIn id looks b
      (received :: rest, b)

/-- Everything that a subscriber finds: what it missed, what is kept for it, and the end. -/
def drain (id : Nat) (b : Broadcast α) : List (Received α) × Broadcast α :=
  b.drainIn id (b.recent.length + 2)

end Broadcast

end LinkWatch
