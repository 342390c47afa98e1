/-
# What a subscriber has not read yet

A broadcast keeps the newest items, as many as its capacity allows, and every subscriber has a
position from which it reads on.  What is left to read from a position is `Broadcast.unread`.

A subscriber that has read everything, and does not look again before more items were sent, finds
all of them if there are no more than the capacity.  Otherwise it is told first how many it has
missed, and then it finds the newest (`Broadcast.Sound.drain_sendAll`).
-/
import LinkWatch.Channel.Broadcast
import Mathlib.Data.List.Induction
import Mathlib.Tactic.Common

namespace LinkWatch.Broadcast

variable {α : Type} {b b' : Broadcast α} {id position capacity : ℕ} {received : Received α} {a : α}
  {items : List α}

/-! ## Broadcasts in use -/

/-- A broadcast that was made with a capacity, and then used in any way but closed. -/
inductive Made (capacity : ℕ) : Broadcast α → Prop
  | new : Made capacity { capacity }
  | subscribe {b : Broadcast α} (made : Made capacity b) : Made capacity b.subscribe.2
  | unsubscribe {b : Broadcast α} (made : Made capacity b) (id : ℕ) :
      Made capacity (b.unsubscribe id)
  | send {b : Broadcast α} (made : Made capacity b) (a : α) : Made capacity (b.send a)
  | receive {b b' : Broadcast α} {id : ℕ} {received : Received α} (made : Made capacity b)
      (receives : b.receive? id = some (received, b')) : Made capacity b'

/-- What is known of such a broadcast. -/
structure Sound (capacity : ℕ) (b : Broadcast α) : Prop where
  capacity_eq : b.capacity = capacity
  length_recent : b.recent.length = min b.sent capacity
  closed : b.closed = false
  /-- Nobody has read what was not sent. -/
  position_le : ∀ s ∈ b.subscribers, s.position ≤ b.sent

/-- What is left to read from a position. -/
def unread (position : ℕ) (b : Broadcast α) : List α := b.recent.drop (position - b.forgotten)

/-- The position of a subscriber. -/
def position? (id : ℕ) (b : Broadcast α) : Option ℕ :=
  (b.subscribers.find? (·.id == id)).map Subscriber.position

/-- Moves a subscriber to a position. -/
def moveTo (id position : ℕ) (b : Broadcast α) : Broadcast α :=
  { b with subscribers := b.subscribers.map fun t => if t.id = id then ⟨id, position⟩ else t }

/-! ## Looking -/

/-- A subscriber that is behind is told how many items it has missed. -/
lemma look_of_lt (h : position < b.forgotten) :
    b.look position = (.lagged (b.forgotten - position), b.forgotten) :=
  if_pos h

/-- A subscriber that is not behind finds the first item that it has not read. -/
lemma look_of_unread (h : b.forgotten ≤ position) (hu : b.unread position = a :: items) :
    b.look position = (.item a, position + 1) ∧ b.unread (position + 1) = items := by
  have hget : b.recent[position - b.forgotten]? = some a := by
    have hhead := congrArg List.head? hu
    rwa [unread, List.head?_drop] at hhead
  refine ⟨?_, ?_⟩
  · simp [look, Nat.not_lt.mpr h, hget]
  · rw [unread, Nat.sub_add_comm h, ← List.tail_drop]
    exact congrArg List.tail hu

/-- When there is nothing that it has not read, it finds nothing. -/
lemma look_of_unread_nil (h : b.forgotten ≤ position) (hclosed : b.closed = false)
    (hu : b.unread position = []) : b.look position = (.nothing, position) := by
  have hget : b.recent[position - b.forgotten]? = none :=
    List.getElem?_eq_none (List.drop_eq_nil_iff.mp hu)
  simp [look, Nat.not_lt.mpr h, hget, hclosed]

/-- A look goes no further than what was sent. -/
lemma look_snd_le (hb : b.recent.length ≤ b.sent) (h : position ≤ b.sent) :
    (b.look position).2 ≤ b.sent := by
  rw [look]
  split
  · exact Nat.sub_le _ _
  · split
    next a ha =>
      obtain ⟨hlt, -⟩ := List.getElem?_eq_some_iff.mp ha
      show position + 1 ≤ b.sent
      rw [forgotten] at *
      omega
    next => exact h

/-- A subscriber receives what it finds at its position, and moves on. -/
lemma receive?_of_position? (h : b.position? id = some position) :
    b.receive? id = some ((b.look position).1, b.moveTo id (b.look position).2) := by
  obtain ⟨s, hs, rfl⟩ := Option.map_eq_some_iff.mp h
  rw [receive?, hs]
  rfl

lemma position?_moveTo (h : (b.position? id).isSome) :
    (b.moveTo id position).position? id = some position := by
  have hpred : ((fun t : Subscriber => t.id == id) ∘ fun t =>
      if t.id = id then ⟨id, position⟩ else t) = (·.id == id) := by
    funext t
    by_cases ht : t.id = id <;> simp [ht]
  rw [position?, Option.isSome_map] at h
  obtain ⟨s, hs⟩ := Option.isSome_iff_exists.mp h
  have hid : s.id = id := by simpa using List.find?_some hs
  rw [position?, moveTo, List.find?_map, hpred, hs, Option.map_some, Option.map_some, if_pos hid]

/-! ## What is known -/

lemma Sound.length_le (h : b.Sound capacity) : b.recent.length ≤ b.sent :=
  h.length_recent ▸ Nat.min_le_left _ _

lemma Sound.forgotten_eq (h : b.Sound capacity) : b.forgotten = b.sent - capacity := by
  rw [forgotten, h.length_recent]
  omega

lemma Sound.send (h : b.Sound capacity) (a : α) : (b.send a).Sound capacity where
  capacity_eq := h.capacity_eq
  length_recent := by
    simp only [Broadcast.send, List.length_drop, List.length_append, List.length_singleton,
      h.length_recent, h.capacity_eq]
    omega
  closed := h.closed
  position_le s hs := Nat.le_succ_of_le (h.position_le s hs)

lemma Sound.receive (h : b.Sound capacity) (hr : b.receive? id = some (received, b')) :
    b'.Sound capacity := by
  obtain ⟨s, hs, hsome⟩ := Option.map_eq_some_iff.mp hr
  obtain ⟨-, rfl⟩ := Prod.mk.inj hsome
  refine ⟨h.capacity_eq, h.length_recent, h.closed, fun t ht => ?_⟩
  obtain ⟨u, hu, rfl⟩ := List.mem_map.mp ht
  split
  · exact look_snd_le h.length_le (h.position_le s (List.mem_of_find?_eq_some hs))
  · exact h.position_le u hu

lemma Made.sound (h : b.Made capacity) : b.Sound capacity := by
  induction h with
  | new => exact ⟨rfl, (Nat.zero_min _).symm, rfl, nofun⟩
  | subscribe _ ih =>
    refine ⟨ih.capacity_eq, ih.length_recent, ih.closed, fun s hs => ?_⟩
    rcases List.mem_append.mp hs with hs | hs
    · exact ih.position_le s hs
    · rw [List.mem_singleton.mp hs]
      exact Nat.le_refl _
  | unsubscribe _ id ih =>
    exact ⟨ih.capacity_eq, ih.length_recent, ih.closed, fun s hs =>
      ih.position_le s (List.mem_filter.mp hs).1⟩
  | send _ a ih => exact ih.send a
  | receive _ receives ih => exact ih.receive receives

/-- A subscriber that finds nothing has read everything that was sent. -/
lemma Sound.position?_of_receive? (h : b.Sound capacity)
    (hr : b.receive? id = some (.nothing, b')) : b.position? id = some b.sent := by
  obtain ⟨s, hs, hsome⟩ := Option.map_eq_some_iff.mp hr
  have hlook : (b.look s.position).1 = .nothing := congrArg Prod.fst hsome
  have hle := h.position_le s (List.mem_of_find?_eq_some hs)
  have hlength := h.length_le
  rw [position?, hs, Option.map_some]
  rw [look] at hlook
  split at hlook
  · cases hlook
  next hbehind =>
    split at hlook
    · cases hlook
    next hnone =>
      have hend := List.getElem?_eq_none_iff.mp hnone
      rw [forgotten] at hbehind hend
      exact congrArg some (by omega)

/-! ## Many items at once -/

lemma sendAll_concat (items : List α) (a : α) (b : Broadcast α) :
    b.sendAll (items ++ [a]) = (b.sendAll items).send a :=
  List.foldl_append

lemma Sound.sendAll (h : b.Sound capacity) (items : List α) : (b.sendAll items).Sound capacity := by
  induction items using List.reverseRecOn with
  | nil => exact h
  | append_singleton items a ih =>
    rw [sendAll_concat]
    exact ih.send a

lemma sent_sendAll (items : List α) (b : Broadcast α) :
    (b.sendAll items).sent = b.sent + items.length := by
  induction items using List.reverseRecOn with
  | nil => rfl
  | append_singleton items a ih =>
    rw [sendAll_concat, List.length_append, ← Nat.add_assoc, ← ih]
    rfl

lemma subscribers_sendAll (items : List α) (b : Broadcast α) :
    (b.sendAll items).subscribers = b.subscribers := by
  induction items using List.reverseRecOn with
  | nil => rfl
  | append_singleton items a ih =>
    rw [sendAll_concat]
    exact ih

/-- The newest items are kept. -/
lemma Sound.recent_sendAll (h : b.Sound capacity) (items : List α) :
    (b.sendAll items).recent =
      (b.recent ++ items).drop ((b.recent ++ items).length - capacity) := by
  induction items using List.reverseRecOn with
  | nil =>
    have hle : b.recent.length ≤ capacity := h.length_recent ▸ Nat.min_le_right _ _
    rw [List.append_nil, Nat.sub_eq_zero_of_le hle]
    rfl
  | append_singleton items a ih =>
    have hsend : (b.sendAll (items ++ [a])).recent =
        ((b.sendAll items).recent ++ [a]).drop
          (((b.sendAll items).recent ++ [a]).length - (b.sendAll items).capacity) := by
      rw [sendAll_concat]
      rfl
    rw [hsend, (h.sendAll items).capacity_eq, ih, ← List.append_assoc,
      ← List.drop_append_of_le_length (Nat.sub_le _ _), List.drop_drop]
    congr 1
    simp only [List.length_drop, List.length_append, List.length_singleton]
    omega

/-- **Who has read everything finds the newest of the items that are sent then.**  Of more items
than the capacity those before the newest are missed. -/
lemma Sound.unread_sendAll (h : b.Sound capacity) (items : List α) :
    let c := b.sendAll items
    c.forgotten - b.sent = items.length - capacity ∧
      c.unread (max b.sent c.forgotten) = items.drop (items.length - capacity) := by
  intro c
  have hforgotten : c.forgotten = b.sent + items.length - capacity := by
    rw [(h.sendAll items).forgotten_eq, sent_sendAll]
  have hlength := h.length_recent
  refine ⟨by omega, ?_⟩
  rw [unread, h.recent_sendAll, List.drop_drop, hforgotten]
  -- the items that were there before are dropped, and then as many as were missed
  have hdrop : (b.recent ++ items).length - capacity +
      (max b.sent (b.sent + items.length - capacity) - (b.sent + items.length - capacity)) =
        b.recent.length + (items.length - capacity) := by
    rw [List.length_append]
    omega
  rw [hdrop, List.drop_append]
  simp

/-- Who has read everything finds the next item that is sent. -/
lemma Sound.look_send (h : b.Sound capacity) (hpos : 0 < capacity) (a : α) :
    (b.send a).look b.sent = (.item a, b.sent + 1) := by
  obtain ⟨hmissed, hunread⟩ := h.unread_sendAll [a]
  have hsend : b.sendAll [a] = b.send a := rfl
  rw [List.length_singleton, Nat.sub_eq_zero_of_le hpos] at hmissed hunread
  rw [hsend] at hmissed hunread
  have hle := Nat.sub_eq_zero_iff_le.mp hmissed
  rw [Nat.max_eq_left hle] at hunread
  exact (look_of_unread hle hunread).1

/-! ## Reading everything -/

lemma drainIn_of_unread {looks : ℕ} (hp : b.position? id = some position)
    (h : b.forgotten ≤ position) (hclosed : b.closed = false) (hu : b.unread position = items)
    (hlooks : items.length < looks) : (b.drainIn id looks).1 = items.map .item := by
  -- induction on the items, one for each look, and one look more that finds nothing
  induction items generalizing b position looks with
  | nil =>
    obtain ⟨looks, rfl⟩ := Nat.exists_eq_succ_of_ne_zero (Nat.ne_of_gt hlooks)
    rw [drainIn, receive?_of_position? hp, look_of_unread_nil h hclosed hu]
    rfl
  | cons a items ih =>
    obtain ⟨looks, rfl⟩ := Nat.exists_eq_succ_of_ne_zero (Nat.ne_zero_of_lt hlooks)
    obtain ⟨hlook, hrest⟩ := look_of_unread h hu
    have hp' : (b.moveTo id (position + 1)).position? id = some (position + 1) :=
      position?_moveTo (Option.isSome_of_eq_some hp)
    rw [drainIn, receive?_of_position? hp, hlook]
    exact congrArg (_ :: ·)
      (ih hp' (Nat.le_succ_of_le h) hclosed hrest (Nat.lt_of_succ_lt_succ hlooks))

/-- **A subscriber finds how many items it has missed, if it is behind, and then everything that is
kept and that it has not read.** -/
lemma Sound.drain_eq (h : b.Sound capacity) (hp : b.position? id = some position) :
    (b.drain id).1 =
      (if b.forgotten ≤ position then [] else [.lagged (b.forgotten - position)]) ++
        (b.unread (max position b.forgotten)).map .item := by
  have hlength (p : ℕ) : (b.unread p).length ≤ b.recent.length := by
    rw [unread, List.length_drop]
    exact Nat.sub_le _ _
  by_cases hbehind : b.forgotten ≤ position
  · rw [if_pos hbehind, List.nil_append, Nat.max_eq_left hbehind]
    exact drainIn_of_unread hp hbehind h.closed rfl (Nat.lt_add_right 1 (Nat.lt_succ_of_le (hlength _)))
  · rw [if_neg hbehind, Nat.max_eq_right (Nat.le_of_not_le hbehind), drain, drainIn,
      receive?_of_position? hp, look_of_lt (Nat.not_le.mp hbehind)]
    refine congrArg (_ :: ·) ?_
    exact drainIn_of_unread (position?_moveTo (Option.isSome_of_eq_some hp)) (Nat.le_refl _) h.closed
      rfl (Nat.lt_succ_of_le (hlength _))

/-- **What is sent to a subscriber that had read everything**: all of it, or the newest items after
the number of those that it has missed. -/
theorem Sound.drain_sendAll (h : b.Sound capacity) (hp : b.position? id = some b.sent)
    (items : List α) :
    ((b.sendAll items).drain id).1 =
      (if items.length ≤ capacity then [] else [.lagged (items.length - capacity)]) ++
        (items.drop (items.length - capacity)).map .item := by
  have hposition : (b.sendAll items).position? id = some b.sent := by
    rw [position?, subscribers_sendAll]
    exact hp
  obtain ⟨hmissed, hunread⟩ := h.unread_sendAll items
  have hbehind : (b.sendAll items).forgotten ≤ b.sent ↔ items.length ≤ capacity := by
    rw [← Nat.sub_eq_zero_iff_le, hmissed, Nat.sub_eq_zero_iff_le]
  rw [(h.sendAll items).drain_eq hposition, hunread, hmissed]
  simp only [hbehind]

end LinkWatch.Broadcast
