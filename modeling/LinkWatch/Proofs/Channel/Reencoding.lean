/-
# Events sent on

An event that came in a frame may be put into a frame again.  The new frame is always read, and
name and payload come back as they were, except for floating-point numbers: these are written in
their shortest form, and the reader rounds more than once.  The payload that comes back has in each
place the number that its own text is read as (`decode_encode_of_decode`), which is the same number
where the text needs no rounding, and which is near otherwise.
-/
import LinkWatch.Proofs.Channel.Brackets
import LinkWatch.Proofs.Channel.Frames
import LinkWatch.Proofs.Json.Made
import LinkWatch.Proofs.Json.Reals

namespace LinkWatch

namespace Json.Number

/-- What a number becomes when it is written and read. -/
def reread : Number → Number
  | .integer z => .integer z
  | .real x => .real x.reread

/-- A number whose text needs no rounding. -/
def Exact : Number → Prop
  | .integer _ => True
  | .real x => x.Exact

lemma Readable.readAs_reread {n : Number} (h : n.Readable) : n.ReadAs n.reread := by
  rcases h with hwhole | ⟨x, rfl⟩
  · obtain ⟨z, rfl, -⟩ := id hwhole
    exact hwhole.readsBack.read
  · exact x.readAs_reread

lemma Exact.reread_eq {n : Number} (h : n.Exact) : n.reread = n := by
  cases n with
  | integer z => rfl
  | real x => exact congrArg Number.real (x.reread_eq_self h)

end Json.Number

namespace Frame

open Json

variable {name text : String} {v : Value} {e : Event}

/-- An event that was decoded has a payload as the reader makes them, with a bracket to spare. -/
lemma made_payload (h : decode text = .ok e) : e.payload.Made 126 := by
  obtain ⟨v, hparse, hevent⟩ := exists_value_of_decode h
  obtain ⟨items, rfl⟩ := exists_list_of_eventOf hevent
  have hmade := made_of_parseChars hparse
  have hcanonical := Value.canonicalItems_iff.mp hmade.canonical
  have hnesting : ∀ v ∈ items, v.nesting ≤ 126 := by
    refine Value.itemsNesting_le_iff.mp ?_
    have := hmade.nesting
    rw [Value.nesting, maxDepth] at this
    omega
  cases items with
  | nil => cases hevent
  | cons first rest =>
    cases first with
    | string name =>
      cases hevent
      cases rest with
      | nil => exact ⟨trivial, Nat.zero_le _⟩
      | cons payload rest =>
        have hmem : payload ∈ Value.string name :: payload :: rest :=
          List.mem_cons_of_mem _ List.mem_cons_self
        exact ⟨hcanonical _ hmem, hnesting _ hmem⟩
    | _ => cases hevent

/-- A frame is read with each number as what its text is read as. -/
lemma decode_encode_map (h : v.Made 126) :
    decode (encode name (some v)) = .ok ⟨name, v.mapNumbers Number.reread⟩ := by
  have hcanonical : (listOf name (some v)).Canonical fun n => n.ReadAs n.reread :=
    ⟨trivial, h.canonical.mono fun _ hn => hn.readAs_reread, trivial⟩
  have hfits : (listOf name (some v)).nesting ≤ maxDepth := by
    have := h.nesting
    rw [nesting_listOf_some, maxDepth]
    omega
  rw [decode_encode, (Value.spelled_chars _).parseChars_map hcanonical hfits]
  rfl

lemma decode_encode_real (x : Binary64) :
    decode (encode name (some (.number (.real x)))) = .ok ⟨name, .number (.real x.reread)⟩ :=
  decode_encode_map ⟨.inr ⟨x, rfl⟩, Nat.zero_le _⟩

/-- **An event that is sent on comes back, up to the rounding of its floating-point numbers.**
Whatever text an event was decoded from, its frame is decoded.

* The name is the same, and so is the payload, but for the floating-point numbers in it, each of
  which is replaced by the one that is read from its text.
* That one has the same sign, and is at most five units in the last place away.
* It is the same number if the shortest text of the number has a significand of at most 53 bits and
  a power of ten of at most 22, up or down.  A payload with no other floating-point numbers comes
  back as it was. -/
theorem decode_encode_of_decode (text : String) (e : Event) (received : decode text = .ok e) :
    decode (encode e.name (some e.payload)) =
      .ok ⟨e.name, e.payload.mapNumbers Number.reread⟩ ∧
    (∀ x : Binary64, x.reread.negative = x.negative ∧
      x.reread.units ≤ x.units + 5 * twoPow x.exponent ∧
      x.units ≤ x.reread.units + 5 * twoPow x.exponent) ∧
    (∀ x : Binary64, x.written.1 < twoPow 53 → x.written.2.natAbs ≤ 22 → x.reread = x) ∧
    (e.payload.Canonical Number.Exact → decode (encode e.name (some e.payload)) = .ok e) := by
  have hround := @decode_encode_map e.name _ (made_payload received)
  refine ⟨hround, fun x => x.reread_near, fun x hs he => x.reread_eq_self ⟨hs, he⟩, fun h => ?_⟩
  rw [hround, Value.mapNumbers_eq_self (h.mono fun _ hn => hn.reread_eq)]

/-- The number that `1e-30` is read as. The one above it is the nearest to this decimal. -/
def belowTinyPower : Binary64 :=
  ⟨false, 5708990770823839, 922, by decide, by decide, by decide⟩

/-- A number that is written as `1e-30`. -/
def tinyPower : Binary64 :=
  ⟨false, 5708990770823840, 922, by decide, by decide, by decide⟩

/-- Each of the two is read from the text of the other. -/
lemma tiny_neighbours :
    tinyPower.reread = belowTinyPower ∧ belowTinyPower.reread = tinyPower ∧
    encode "x" (some (.number (.real tinyPower))) = "[\"x\",1e-30]" ∧
    encode "x" (some (.number (.real belowTinyPower))) = "[\"x\",9.999999999999999e-31]" := by
  decide +kernel

/-- A small number becomes its neighbour; members that came in another order, and an item that
nobody reads, make no difference. -/
theorem decode_encode_of_decode_of_tiny :
    decode "[\"x\",1e-30]" = .ok ⟨"x", .number (.real belowTinyPower)⟩ ∧
    decode (encode "x" (some (.number (.real belowTinyPower)))) =
      .ok ⟨"x", .number (.real tinyPower)⟩ ∧
    decode " [\"x\" ,\x7b\"b\":[10,null],\"a\":-1\x7d,3]\n" =
      .ok ⟨"x", .object [("a", .int (-1)), ("b", .list [.int 10, .null])]⟩ ∧
    decode (encode "x" (some (.object [("a", .int (-1)), ("b", .list [.int 10, .null])]))) =
      .ok ⟨"x", .object [("a", .int (-1)), ("b", .list [.int 10, .null])]⟩ := by
  obtain ⟨hdown, hup, hframe, -⟩ := tiny_neighbours
  have hreal : decode "[\"x\",1e-30]" = .ok ⟨"x", .number (.real belowTinyPower)⟩ := by
    rw [← hframe, decode_encode_real, hdown]
  have hmembers : decode " [\"x\" ,\x7b\"b\":[10,null],\"a\":-1\x7d,3]\n" =
      .ok ⟨"x", .object [("a", .int (-1)), ("b", .list [.int 10, .null])]⟩ := rfl
  refine ⟨hreal, ?_, hmembers, ?_⟩
  · have hround := (decode_encode_of_decode _ _ hreal).1
    rwa [Value.mapNumbers, Number.reread, hup] at hround
  · exact (decode_encode_of_decode _ _ hmembers).2.2.2
      ⟨by decide, trivial, ⟨trivial, trivial, trivial⟩, trivial⟩

/-- Not every number comes back: this one is read from a frame, and from the frame of the event the
one below it is read. -/
theorem decode_encode_ne_of_tiny :
    decode "[\"x\",9.999999999999999e-31]" = .ok ⟨"x", .number (.real tinyPower)⟩ ∧
    encode "x" (some (.number (.real tinyPower))) = "[\"x\",1e-30]" ∧
    decode "[\"x\",1e-30]" = .ok ⟨"x", .number (.real belowTinyPower)⟩ ∧
    decode (encode "x" (some (.number (.real tinyPower)))) ≠
      .ok ⟨"x", .number (.real tinyPower)⟩ := by
  obtain ⟨hdown, hup, hframe, hframe'⟩ := tiny_neighbours
  have hread := @decode_encode_real "x" tinyPower
  rw [hdown] at hread
  refine ⟨?_, hframe, hframe ▸ hread, ?_⟩
  · rw [← hframe', decode_encode_real, hup]
  · rw [hread]
    simp [tinyPower, belowTinyPower]

end Frame

end LinkWatch
