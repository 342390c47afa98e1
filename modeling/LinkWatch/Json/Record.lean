/-
# Records in JSON

A record is written as an object with its fields in any order, or as a list of its fields in
their own order.  Members with other names are skipped; a name must not come twice.
-/
import LinkWatch.Json.Decoder

namespace LinkWatch.Json

/-- A field: its name, and how its value changes the record that is being filled. -/
structure Field (σ : Type) where
  name : String
  update : Decoder (σ → σ)

/-- A field that is set by a function of its decoded value. -/
def Field.of (name : String) (d : Decoder α) (set : α → σ → σ) : Field σ :=
  ⟨name, {
    fromText := fun depth c => do
      let (a, c) ← d.fromText depth c
      .ok (set a, c)
    fromValue := fun v => (d.fromValue v).map set }⟩

/-- How a record of type `α` is read, by filling a record of type `σ`. -/
structure Record (σ α : Type) where
  /-- The name of the record in messages. -/
  name : String
  /-- What is there before any field is read. -/
  start : σ
  fields : List (Field σ)
  /-- Whether the list form must give every field. -/
  whole : Bool
  /-- What the filled record means; a missing field is noticed here. -/
  finish : σ → Except Cause α

namespace Record

variable {σ α : Type}

def field? (r : Record σ α) (name : String) : Option (Field σ) :=
  r.fields.find? (·.name == name)

/-- What is expected where the record is. -/
def expected (r : Record σ α) : String := "struct " ++ r.name

/-- The refusal of a list that ends after `count` of the fields. -/
def tooShort (r : Record σ α) (count : Nat) : Cause :=
  .invalidLength count (r.expected ++ " with " ++ toString r.fields.length ++
    (if r.fields.length = 1 then " element" else " elements"))

/-! ## From a text

A refusal of the record as a whole is noticed only after the end of the list or object has been
looked for, so it is passed on with the cursor. -/

/-- Reads the fields of the list form. -/
def readFields (r : Record σ α) (depth : Nat) :
    List (Field σ) → Nat → σ → Cursor → Except Error (Except Cause α × Cursor)
  | [], _, s, c => .ok (r.finish s, c)
  | f :: rest, count, s, c => do
    match ← c.nextItem? (count == 0) with
    | none => .ok (if r.whole then .error (r.tooShort count) else r.finish s, c)
    | some c =>
      let (update, c) ← f.update.fromText depth c
      readFields r depth rest (count + 1) (update s) c

/-- Reads the members of the object form, `seen` being the names of the fields read before. -/
def readNamed (r : Record σ α) (depth : Nat) :
    Nat → Bool → List String → σ → Cursor → Except Error (Except Cause α × Cursor)
  | 0, _, _, _, c => failAt c.place .endInObject
  | fuel + 1, first, seen, s, c => do
    match ← c.nextName? first with
    | none => .ok (r.finish s, c)
    | some c =>
      let (name, c) ← readString c
      match r.field? name with
      | none =>
        let c ← c.skipColon
        let c ← skipValue c
        readNamed r depth fuel false seen s c
      | some f =>
        if seen.contains name then .ok (.error (.duplicateField name), c)
        else
          let c ← c.skipColon
          let (update, c) ← f.update.fromText depth c
          readNamed r depth fuel false (name :: seen) (update s) c

/-- Reads a record from a text. -/
def fromText (r : Record σ α) (depth : Nat) (c : Cursor) : Except Error (α × Cursor) := do
  let c := c.skipGap
  match c.rest with
  | [] => failAt c.place .endInValue
  | x :: _ =>
    if x = '[' then
      if depth = 0 then c.failNext .nestedTooDeeply
      else
        let (result, c) ← r.readFields (depth - 1) r.fields 0 r.start c.next
        match result with
        | .ok a => .ok (a, ← c.closeList)
        | .error cause => failAt c.afterList cause
    else if x = '{' then
      if depth = 0 then c.failNext .nestedTooDeeply
      else
        let (result, c) ← r.readNamed (depth - 1) (c.rest.length + 1) true [] r.start c.next
        match result with
        | .ok a => .ok (a, ← c.closeObject)
        | .error cause => failAt c.afterObject cause
    else refuse r.expected c

/-! ## From a value -/

/-- Takes the fields of the list form from the items. -/
def takeItems (r : Record σ α) : List (Field σ) → Nat → σ → List Value → Except Cause σ
  | [], _, s, _ => .ok s
  | _ :: _, count, s, [] => if r.whole then .error (r.tooShort count) else .ok s
  | f :: rest, count, s, v :: items => do
    let update ← f.update.fromValue v
    takeItems r rest (count + 1) (update s) items

/-- Takes the members of the object form. -/
def takeMembers (r : Record σ α) : List String → σ → List (String × Value) → Except Cause σ
  | _, s, [] => .ok s
  | seen, s, (name, v) :: rest =>
    match r.field? name with
    | none => takeMembers r seen s rest
    | some f =>
      if seen.contains name then .error (.duplicateField name)
      else do
        let update ← f.update.fromValue v
        takeMembers r (name :: seen) (update s) rest

/-- Reads a record from a value. -/
def fromValue (r : Record σ α) : Value → Except Cause α
  | .list items => do
    let a ← r.finish (← r.takeItems r.fields 0 r.start items)
    if items.length ≤ r.fields.length then .ok a
    else .error (.invalidLength items.length "fewer elements in array")
  | .object members => do r.finish (← r.takeMembers [] r.start members)
  | v => .error (.invalidType v.found r.expected)

/-- The decoder of a record. -/
def decoder (r : Record σ α) : Decoder α := ⟨r.fromText, r.fromValue⟩

end Record

/-- The value of a field that has to be there. -/
def require (name : String) : Option α → Except Cause α
  | some a => .ok a
  | none => .error (.missingField name)

end LinkWatch.Json
