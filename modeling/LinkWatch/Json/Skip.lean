/-
# Skipping a JSON value

A value that nobody asked for is only checked for its form: it may be nested to any depth, its
numbers may be of any size, and the numeric escapes in its strings need not make characters.
-/
import LinkWatch.Json.Token

namespace LinkWatch.Json

/-- Skips the rest of a string up to its closing quote. -/
def skipChars : Nat → Cursor → Except Error Cursor
  | 0, c => failAt c.place .endInString
  | fuel + 1, c =>
    match c.rest with
    | [] => failAt c.place .endInString
    | x :: _ =>
      if x = '"' then .ok c.next
      else if x = '\\' then
        let c := c.next
        match c.rest with
        | [] => failAt c.place .endInString
        | y :: _ =>
          if y = 'u' then do
            let (_, c) ← readHex c.next
            skipChars fuel c
          else if (shortEscape? y).isSome then skipChars fuel c.next
          else c.failNext .invalidEscape
      else if x.toNat < 0x20 then failAt c.place .controlCharacter
      else skipChars fuel c.next

/-- Skips a string after its opening quote. -/
def skipString (c : Cursor) : Except Error Cursor := skipChars (c.rest.length + 1) c

/-- A bracket that is open. -/
inductive Bracket where
  | list
  | object
deriving DecidableEq

/-- Skips the name and the colon before the value of a member. -/
def skipName (c : Cursor) : Except Error Cursor :=
  let c := c.skipGap
  match c.rest with
  | [] => failAt c.place .endInObject
  | x :: _ =>
    if x = '"' then do
      let c ← skipString c.next
      c.skipColon
    else c.failNext .keyMustBeString

mutual

/-- Skips a value and then everything up to the end of the brackets that are open around it,
innermost first. -/
def skipNested : Nat → List Bracket → Cursor → Except Error Cursor
  | 0, _, c => failAt c.place .endInValue
  | fuel + 1, enclosing, c =>
    let c := c.skipGap
    match c.rest with
    | [] => failAt c.place .endInValue
    | x :: _ =>
      if x = 'n' then do skipRest fuel enclosing (← skipWord ['u', 'l', 'l'] c.next)
      else if x = 't' then do skipRest fuel enclosing (← skipWord ['r', 'u', 'e'] c.next)
      else if x = 'f' then do skipRest fuel enclosing (← skipWord ['a', 'l', 's', 'e'] c.next)
      else if x = '-' ∨ x.isDigit then do
        let (_, c) ← readNumeral .invalidNumber c
        skipRest fuel enclosing c
      else if x = '"' then do skipRest fuel enclosing (← skipString c.next)
      else if x = '[' then
        let c := c.next.skipGap
        match c.rest with
        | [] => failAt c.place .endInList
        | y :: _ =>
          if y = ']' then skipRest fuel enclosing c.next
          else skipNested fuel (.list :: enclosing) c
      else if x = '{' then
        let c := c.next.skipGap
        match c.rest with
        | [] => failAt c.place .endInObject
        | y :: _ =>
          if y = '}' then skipRest fuel enclosing c.next
          else do skipNested fuel (.object :: enclosing) (← skipName c)
      else c.failNext .expectedValue

/-- Skips what follows a value inside the brackets that are open. -/
def skipRest : Nat → List Bracket → Cursor → Except Error Cursor
  | _, [], c => .ok c
  | 0, _, c => failAt c.place .endInValue
  | fuel + 1, .list :: enclosing, c =>
    let c := c.skipGap
    match c.rest with
    | [] => failAt c.place .endInList
    | x :: _ =>
      if x = ',' then skipNested fuel (.list :: enclosing) c.next
      else if x = ']' then skipRest fuel enclosing c.next
      else c.failNext .expectedListCommaOrEnd
  | fuel + 1, .object :: enclosing, c =>
    let c := c.skipGap
    match c.rest with
    | [] => failAt c.place .endInObject
    | x :: _ =>
      if x = ',' then do skipNested fuel (.object :: enclosing) (← skipName c.next)
      else if x = '}' then skipRest fuel enclosing c.next
      else c.failNext .expectedObjectCommaOrEnd

end

@[simp] theorem skipRest_nil (fuel : Nat) (c : Cursor) : skipRest fuel [] c = .ok c := by
  rw [skipRest]

/-- Skips one value. -/
def skipValue (c : Cursor) : Except Error Cursor := skipNested (2 * c.rest.length + 2) [] c

end LinkWatch.Json
