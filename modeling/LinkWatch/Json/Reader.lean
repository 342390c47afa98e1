/-
# Reading JSON

Reads a text as a value.  Brackets may be nested to a depth of 127.
-/
import LinkWatch.Json.Token

namespace LinkWatch.Json

/-- How many brackets may be open at once. -/
def maxDepth : Nat := 127

mutual

/-- Reads a value in which `depth` more brackets may be nested. -/
def readNested : Nat → Nat → Cursor → Except Error (Value × Cursor)
  | 0, _, c => failAt c.place .endInValue
  | fuel + 1, depth, c =>
    let c := c.skipGap
    match c.rest with
    | [] => failAt c.place .endInValue
    | x :: _ =>
      if x = 'n' then do .ok (.null, ← skipWord ['u', 'l', 'l'] c.next)
      else if x = 't' then do .ok (.bool true, ← skipWord ['r', 'u', 'e'] c.next)
      else if x = 'f' then do .ok (.bool false, ← skipWord ['a', 'l', 's', 'e'] c.next)
      else if x = '-' ∨ x.isDigit then do
        let (n, c) ← readNumber c
        .ok (.number n, c)
      else if x = '"' then do
        let (s, c) ← readString c.next
        .ok (.string s, c)
      else if x = '[' then
        if depth = 0 then c.failNext .nestedTooDeeply
        else readItems fuel (depth - 1) true [] c.next
      else if x = '{' then
        if depth = 0 then c.failNext .nestedTooDeeply
        else readMembers fuel (depth - 1) true [] c.next
      else c.failNext .expectedValue

/-- Reads the rest of a list, `done` being the items before, reversed. -/
def readItems : Nat → Nat → Bool → List Value → Cursor → Except Error (Value × Cursor)
  | 0, _, _, _, c => failAt c.place .endInList
  | fuel + 1, depth, first, done, c => do
    match ← c.nextItem? first with
    | none => .ok (.list done.reverse, ← c.closeList)
    | some c =>
      let (item, c) ← readNested fuel depth c
      readItems fuel depth false (item :: done) c

/-- Reads the rest of an object, `done` being the members before, sorted by name. -/
def readMembers : Nat → Nat → Bool → List (String × Value) → Cursor → Except Error (Value × Cursor)
  | 0, _, _, _, c => failAt c.place .endInObject
  | fuel + 1, depth, first, done, c => do
    match ← c.nextName? first with
    | none => .ok (.object done, ← c.closeObject)
    | some c =>
      let (name, c) ← readString c
      let c ← c.skipColon
      let (value, c) ← readNested fuel depth c
      readMembers fuel depth false (Value.insertMember name value done) c

end

/-! Without fuel nothing is read. -/

@[simp] theorem readNested_zero (depth : Nat) (c : Cursor) :
    readNested 0 depth c = failAt c.place .endInValue := by
  rw [readNested]

@[simp] theorem readItems_zero (depth : Nat) (first : Bool) (done : List Value) (c : Cursor) :
    readItems 0 depth first done c = failAt c.place .endInList := by
  rw [readItems]

@[simp] theorem readMembers_zero (depth : Nat) (first : Bool) (done : List (String × Value))
    (c : Cursor) : readMembers 0 depth first done c = failAt c.place .endInObject := by
  rw [readMembers]

/-- Reads a value in which `depth` brackets may be nested. -/
def readValue (depth : Nat) (c : Cursor) : Except Error (Value × Cursor) :=
  readNested (2 * c.rest.length + 2) depth c

/-- Reads a whole text as a value. -/
def parseChars (cs : List Char) : Except Error Value := do
  let (v, c) ← readValue maxDepth (.start cs)
  c.finish
  .ok v

/-- Reads a whole text as a value. -/
def parse (s : String) : Except Error Value := parseChars s.toList

end LinkWatch.Json
