/-
# A place in a JSON text

The characters that are still to be read together with the place where they begin, and the
moves over blanks, digits and the marks between the parts of a value.

A refusal names one of two places: the place reached so far, or the place one byte further on,
when the fault is with the byte that comes next.
-/
import LinkWatch.Json.Error

namespace LinkWatch.Json

/-- The place after one more character. -/
def Position.after (p : Position) (c : Char) : Position :=
  if c = '\n' then ⟨p.line + 1, 0⟩ else ⟨p.line, p.column + c.utf8Size⟩

/-- What is left of a text, and where it begins. -/
structure Cursor where
  rest : List Char
  place : Position

/-- The refusal for a cause noticed at a place. -/
def failAt (p : Position) (cause : Cause) : Except Error α := .error ⟨cause, some p⟩

namespace Cursor

/-- The beginning of a text. -/
def start (cs : List Char) : Cursor := ⟨cs, ⟨1, 0⟩⟩

/-- The cursor one character further on. -/
def next (c : Cursor) : Cursor :=
  match c.rest with
  | [] => c
  | x :: rest => ⟨rest, c.place.after x⟩

/-- The place `n` bytes further on, or the end of the text. -/
def placeAfter (n : Nat) : List Char → Position → Position
  | [], p => p
  | x :: rest, p =>
    if n = 0 then p
    else if x.utf8Size ≤ n then placeAfter (n - x.utf8Size) rest (p.after x)
    else ⟨p.line, p.column + n⟩

/-- The place one byte further on, or the end of the text. -/
def nextPlace (c : Cursor) : Position := placeAfter 1 c.rest c.place

/-- The refusal for a cause noticed at the next byte. -/
def failNext (c : Cursor) (cause : Cause) : Except Error α := failAt c.nextPlace cause

/-- Moves over the characters at the front that satisfy `p`. -/
def dropWhile (p : Char → Bool) (c : Cursor) : Cursor :=
  ⟨c.rest.dropWhile p, (c.rest.takeWhile p).foldl Position.after c.place⟩

/-- The blanks between the parts of a value. -/
def isGap (c : Char) : Bool := c = ' ' || c = '\t' || c = '\n' || c = '\r'

/-- Moves over blanks. -/
def skipGap (c : Cursor) : Cursor := c.dropWhile isGap

/-- The digits at the front. -/
def digits (c : Cursor) : List Char := c.rest.takeWhile Char.isDigit

/-- Moves over digits. -/
def skipDigits (c : Cursor) : Cursor := c.dropWhile Char.isDigit

/-! ## Between the parts of a list or an object -/

/-- Finds the next item of a list: nothing at the closing bracket, and the place of the item
otherwise. Every item but the first has a comma before it. -/
def nextItem? (first : Bool) (c : Cursor) : Except Error (Option Cursor) :=
  let c := c.skipGap
  match c.rest with
  | [] => failAt c.place .endInList
  | x :: _ =>
    if x = ']' then .ok none
    else if first then .ok (some c)
    else if x = ',' then
      let c := c.next.skipGap
      match c.rest with
      | [] => failAt c.place .endInValue
      | y :: _ => if y = ']' then c.failNext .trailingComma else .ok (some c)
    else c.failNext .expectedListCommaOrEnd

/-- Finds the next name in an object: nothing at the closing brace, and the place after the
opening quote otherwise. -/
def nextName? (first : Bool) (c : Cursor) : Except Error (Option Cursor) :=
  let c := c.skipGap
  match c.rest with
  | [] => failAt c.place .endInObject
  | x :: _ =>
    if x = '}' then .ok none
    else if first then
      if x = '"' then .ok (some c.next) else c.failNext .keyMustBeString
    else if x = ',' then
      let c := c.next.skipGap
      match c.rest with
      | [] => failAt c.place .endInValue
      | y :: _ =>
        if y = '"' then .ok (some c.next)
        else if y = '}' then c.failNext .trailingComma
        else c.failNext .keyMustBeString
    else c.failNext .expectedObjectCommaOrEnd

/-- Moves over the colon after a name. -/
def skipColon (c : Cursor) : Except Error Cursor :=
  let c := c.skipGap
  match c.rest with
  | [] => failAt c.place .endInObject
  | x :: _ => if x = ':' then .ok c.next else c.failNext .expectedColon

/-- Moves over the bracket that closes a list. -/
def closeList (c : Cursor) : Except Error Cursor :=
  let c := c.skipGap
  match c.rest with
  | [] => failAt c.place .endInList
  | x :: _ =>
    if x = ']' then .ok c.next
    else if x = ',' then
      let c := c.next.skipGap
      c.failNext (if c.rest.head? = some ']' then .trailingComma else .trailingCharacters)
    else c.failNext .trailingCharacters

/-- Moves over the brace that closes an object. -/
def closeObject (c : Cursor) : Except Error Cursor :=
  let c := c.skipGap
  match c.rest with
  | [] => failAt c.place .endInObject
  | x :: _ =>
    if x = '}' then .ok c.next
    else c.failNext (if x = ',' then .trailingComma else .trailingCharacters)

/-- Where the reading of a list stands once its end has been looked for: after the closing
bracket, or after a comma and the blanks that follow it. -/
def afterList (c : Cursor) : Position :=
  let c := c.skipGap
  if c.rest.head? = some ']' then c.next.place
  else if c.rest.head? = some ',' then c.next.skipGap.place
  else c.place

/-- Where the reading of an object stands once its end has been looked for. -/
def afterObject (c : Cursor) : Position :=
  let c := c.skipGap
  if c.rest.head? = some '}' then c.next.place else c.place

/-- Refuses anything but blanks up to the end of the text. -/
def finish (c : Cursor) : Except Error Unit :=
  let c := c.skipGap
  if c.rest = [] then .ok () else c.failNext .trailingCharacters

end Cursor

end LinkWatch.Json
