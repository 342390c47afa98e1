/-
# Decoding JSON into a type

A decoder reads a value of a type in two ways: directly from a text, where a refusal has a
place, and from a JSON value that was read before.  Both give the same causes.
-/
import LinkWatch.Json.Reader
import LinkWatch.Json.Skip

namespace LinkWatch.Json

/-- The two ways of reading a value of the type `α`. -/
structure Decoder (α : Type) where
  /-- Reads from a text in which the given number of brackets may be nested. -/
  fromText : Nat → Cursor → Except Error (α × Cursor)
  /-- Reads from a value. -/
  fromValue : Value → Except Cause α

/-- Refuses the value at the cursor because something else was expected. A scalar is read first,
so that it can be named; a list or an object is refused at its opening bracket. -/
def refuse (expected : String) (c : Cursor) : Except Error α :=
  match c.rest with
  | [] => failAt c.place .endInValue
  | x :: _ =>
    if x = 'n' then do
      let c ← skipWord ['u', 'l', 'l'] c.next
      failAt c.place (.invalidType .null expected)
    else if x = 't' then do
      let c ← skipWord ['r', 'u', 'e'] c.next
      failAt c.place (.invalidType (.bool true) expected)
    else if x = 'f' then do
      let c ← skipWord ['a', 'l', 's', 'e'] c.next
      failAt c.place (.invalidType (.bool false) expected)
    else if x = '-' ∨ x.isDigit then do
      let (n, c) ← readNumber c
      failAt c.place (.invalidType (.number n) expected)
    else if x = '"' then do
      let (s, c) ← readString c.next
      failAt c.place (.invalidType (.string s) expected)
    else if x = '[' then failAt c.place (.invalidType .list expected)
    else if x = '{' then failAt c.place (.invalidType .object expected)
    else c.failNext .expectedValue

/-- A result from a scalar that ended at the cursor, a refusal being noticed there. -/
def settle (c : Cursor) : Except Cause α → Except Error (α × Cursor)
  | .ok a => .ok (a, c)
  | .error cause => failAt c.place cause

namespace Decoder

/-- Any value. -/
def value : Decoder Value where
  fromText depth c := readValue depth c
  fromValue v := .ok v

/-! ## Scalars -/

/-- A string that `accept` turns into a value. -/
def stringWith (expected : String) (accept : String → Except Cause α) : Decoder α where
  fromText _ c := do
    let c := c.skipGap
    if c.rest.head? = some '"' then
      let (s, c) ← readString c.next
      settle c (accept s)
    else refuse expected c
  fromValue
    | .string s => accept s
    | v => .error (.invalidType v.found expected)

/-- Any string. -/
def string : Decoder String := stringWith "a string" .ok

/-- A truth value. -/
def bool : Decoder Bool where
  fromText _ c := do
    let c := c.skipGap
    if c.rest.head? = some 't' then .ok (true, ← skipWord ['r', 'u', 'e'] c.next)
    else if c.rest.head? = some 'f' then .ok (false, ← skipWord ['a', 'l', 's', 'e'] c.next)
    else refuse "a boolean" c
  fromValue
    | .bool b => .ok b
    | v => .error (.invalidType v.found "a boolean")

/-- Accepts a whole number from `low` up to `high`. -/
def wholeIn (low high : Int) (expected : String) : Number → Except Cause Int
  | .integer z =>
    if low ≤ z ∧ z ≤ high then .ok z
    else .error (.invalidValue (.number (.integer z)) expected)
  | .real x => .error (.invalidType (.number (.real x)) expected)

/-- A number that `accept` turns into a value. -/
def numberWith (expected : String) (accept : Number → Except Cause α) : Decoder α where
  fromText _ c := do
    let c := c.skipGap
    match c.rest with
    | [] => failAt c.place .endInValue
    | x :: _ =>
      if x = '-' ∨ x.isDigit then
        let (n, c) ← readNumber c
        settle c (accept n)
      else refuse expected c
  fromValue
    | .number n => accept n
    | v => .error (.invalidType v.found expected)

/-- A whole number of 64 bits without a sign. -/
def uint64 : Decoder UInt64 :=
  numberWith "u64" fun n => (wholeIn 0 maxWord "u64" n).map fun z => UInt64.ofNat z.toNat

/-- A whole number of 64 bits with a sign. -/
def int64 : Decoder Int := numberWith "i64" (wholeIn (-maxSigned - 1) maxSigned "i64")

/-- Nothing but `null`. -/
def unit : Decoder Unit where
  fromText _ c := do
    let c := c.skipGap
    if c.rest.head? = some 'n' then .ok ((), ← skipWord ['u', 'l', 'l'] c.next)
    else refuse "unit" c
  fromValue
    | .null => .ok ()
    | v => .error (.invalidType v.found "unit")

/-- A value, or `null`. -/
def optional (d : Decoder α) : Decoder (Option α) where
  fromText depth c := do
    let c := c.skipGap
    if c.rest.head? = some 'n' then .ok (none, ← skipWord ['u', 'l', 'l'] c.next)
    else
      let (a, c) ← d.fromText depth c
      .ok (some a, c)
  fromValue
    | .null => .ok none
    | v => (d.fromValue v).map some

/-! ## Names -/

/-- The value with a name. -/
def choose (choices : List (String × α)) (name : String) : Except Cause α :=
  match choices.find? (·.1 == name) with
  | some (_, a) => .ok a
  | none => .error (.unknownVariant name (choices.map (·.1)))

/-- One of a few names: as a string, or as an object whose only member has that name and the
value `null`. -/
def oneOf (choices : List (String × α)) : Decoder α where
  fromText depth c := do
    let c := c.skipGap
    match c.rest with
    | [] => failAt c.place .endInValue
    | x :: _ =>
      if x = '"' then
        (stringWith "variant identifier" (choose choices)).fromText depth c
      else if x = '{' then
        if depth = 0 then c.failNext .nestedTooDeeply
        else
          let (a, c) ← (stringWith "variant identifier" (choose choices)).fromText depth c.next
          let c ← c.skipColon
          let ((), c) ← unit.fromText depth c
          let c := c.skipGap
          match c.rest with
          | [] => failAt c.place .endInObject
          | y :: _ => if y = '}' then .ok (a, c.next) else failAt c.place .expectedValue
      else c.failNext .expectedValue
  fromValue
    | .string s => choose choices s
    | .object [(name, v)] => do
      let a ← choose choices name
      unit.fromValue v
      .ok a
    | .object _ => .error (.invalidValue .object "map with a single key")
    | v => .error (.invalidType v.found "string or map")

end Decoder

/-- Reads a whole text with a decoder. -/
def Decoder.parse (d : Decoder α) (s : String) : Except Error α := do
  let (a, c) ← d.fromText maxDepth (.start s.toList)
  c.finish
  .ok a

end LinkWatch.Json
