/-
# Frames read back

The frame of an event is the compact text of a list.  It begins and ends with a bracket, so that
the removal of blanks leaves it alone, and reading it gives the event back, whatever its name and
its payload are, unless the payload uses up all the brackets that may be open: the frame has one
of its own.
-/
import LinkWatch.Channel.Frame
import LinkWatch.Proofs.Json.ReadBack

namespace LinkWatch.Frame

open Json

variable {name : String} {payload? : Option Value} {v w : Value}

/-- The list whose text is a frame. -/
def listOf (name : String) (payload? : Option Value) : Value :=
  .list (.string name :: payload?.toList)

lemma toList_encode : (encode name payload?).toList = (listOf name payload?).chars :=
  String.toList_ofList

/-- A list begins and ends with a bracket, so that nothing of its text is dropped as blank. -/
lemma trimBlanks_chars (items : List Value) :
    Text.trimBlanks (Value.list items).chars = (Value.list items).chars := by
  rw [Value.chars]
  refine Text.trimBlanks_eq_self (fun c hc => ?_) fun c hc => ?_
  · obtain rfl : '[' = c := Option.some.inj hc
    decide
  · rw [List.getLast?_append_of_ne_nil _ (List.cons_ne_nil _ _)] at hc
    obtain rfl : ']' = c := Option.some.inj hc
    decide

lemma decode_encode :
    decode (encode name payload?) =
      ((parseChars (listOf name payload?).chars).mapError .json).bind fun v =>
        (eventOf v).mapError .channel := by
  rw [decode, toList_encode, listOf, trimBlanks_chars]
  rfl

lemma canonical_listOf (h : ∀ v ∈ payload?, v.Canonical Number.Whole) :
    (listOf name payload?).Canonical Number.ReadsBack := by
  cases payload? with
  | none => exact ⟨trivial, trivial⟩
  | some v => exact ⟨trivial, (h v rfl).mono fun _ => Number.Whole.readsBack, trivial⟩

lemma nesting_listOf_some : (listOf name (some v)).nesting = v.nesting + 1 := by
  simp [listOf, Value.nesting, Value.itemsNesting]

lemma decode_encode_of_nesting (hv : v.Canonical Number.Whole) (hd : v.nesting ≤ 126) :
    decode (encode name (some v)) = .ok ⟨name, v⟩ := by
  have hfits : (listOf name (some v)).nesting ≤ maxDepth := by
    rw [nesting_listOf_some, maxDepth]
    omega
  rw [decode_encode, (Value.spelled_chars _).parseChars_eq (canonical_listOf (by simpa)) hfits]
  rfl

/-- **A frame is read as its event, unless it is nested too deeply.**  Take any name, and any
payload without floating-point numbers, whose whole numbers fit into 64 bits with a sign or without
one, and whose objects have their members sorted by name.

* If at most 126 brackets are open at once in the payload, its frame is read as just this event;
  otherwise the frame is refused, because of its nesting.
* A frame without a payload is read as an event with the payload `null`.
* When an event that was read from such a frame is put into a frame again, the text is the same.
* Two such events with the same frame have the same name and the same payload, however deep. -/
theorem frame_round_trip (name : String) (v : Value) (canonical : v.Canonical Number.Whole) :
    (v.nesting ≤ 126 → decode (encode name (some v)) = .ok ⟨name, v⟩) ∧
    (126 < v.nesting →
      ∃ p, decode (encode name (some v)) = .error (.json ⟨.nestedTooDeeply, some p⟩)) ∧
    decode (encode name none) = .ok ⟨name, .null⟩ ∧
    (v.nesting ≤ 126 → ∀ e, decode (encode name (some v)) = .ok e →
      encode e.name (some e.payload) = encode name (some v)) ∧
    ∀ name' w, w.Canonical Number.Whole → encode name (some v) = encode name' (some w) →
      name = name' ∧ v = w := by
  have hlist : (listOf name (some v)).Canonical Number.ReadsBack := canonical_listOf (by simpa)
  refine ⟨decode_encode_of_nesting canonical, fun hd => ?_, ?_, fun hd e he => ?_,
    fun name' w hw heq => ?_⟩
  · have hdeep : maxDepth < (listOf name (some v)).nesting := by
      rw [nesting_listOf_some, maxDepth]
      omega
    obtain ⟨p, hp⟩ := (Value.spelled_chars _).parseChars_tooDeep hlist hdeep
    exact ⟨p, by rw [decode_encode, hp]; rfl⟩
  · rw [decode_encode, (Value.spelled_chars _).parseChars_eq (canonical_listOf (by simp))
      (by simp [listOf, Value.nesting, Value.itemsNesting, maxDepth])]
    rfl
  · rw [decode_encode_of_nesting canonical hd] at he
    rw [← Except.ok.inj he]
  · -- both lists have the same text
    have htext := congrArg String.toList heq
    rw [toList_encode, toList_encode] at htext
    have hspelled := Value.spelled_chars (listOf name' (some w))
    rw [← htext] at hspelled
    have hvalue := (Value.spelled_chars _).injective hspelled hlist (canonical_listOf (by simpa))
    simpa [listOf] using hvalue

/-- A payload with the largest and the smallest number, escapes, and members in their order. -/
def limits : Value :=
  .object [("", .list []), ("\\\"\n\u0001é😀", .list [.bool true, .null]),
    ("max", .int 18446744073709551615), ("min", .int (-9223372036854775808))]

/-- Lists in lists, a number of times. -/
def nestedLists : ℕ → Value
  | 0 => .null
  | n + 1 => .list [nestedLists n]

lemma canonical_nestedLists (p : Number → Prop) : (n : ℕ) → (nestedLists n).Canonical p
  | 0 => trivial
  | n + 1 => ⟨canonical_nestedLists p n, trivial⟩

lemma nesting_nestedLists : (n : ℕ) → (nestedLists n).nesting = n
  | 0 => rfl
  | n + 1 => by simp [nestedLists, Value.nesting, Value.itemsNesting, nesting_nestedLists n]

/-- With 126 brackets a payload is read, and with 127 it is not. -/
theorem frame_round_trip_of_limits :
    limits.Canonical Number.Whole ∧
    decode (encode "status" (some limits)) = .ok ⟨"status", limits⟩ ∧
    decode (encode "status" (some (nestedLists 126))) = .ok ⟨"status", nestedLists 126⟩ ∧
    ∃ p, decode (encode "status" (some (nestedLists 127))) =
      .error (.json ⟨.nestedTooDeeply, some p⟩) := by
  have hlimits : limits.Canonical Number.Whole := by
    refine ⟨by decide, trivial, ⟨trivial, trivial, trivial⟩, ⟨_, rfl, ?_, ?_⟩, ⟨_, rfl, ?_, ?_⟩,
      trivial⟩ <;> decide
  refine ⟨hlimits, (frame_round_trip "status" limits hlimits).1 (by decide), ?_, ?_⟩
  · exact (frame_round_trip "status" _ (canonical_nestedLists _ 126)).1
      (Nat.le_of_eq (nesting_nestedLists 126))
  · exact (frame_round_trip "status" _ (canonical_nestedLists _ 127)).2.1
      (Nat.le_of_eq (nesting_nestedLists 127).symm)

end LinkWatch.Frame
