/-
# Files of environment variables

Lines of the form `NAME=value`, with comments, quotes, escapes, and references to other
variables.  A quoted value may go on over several lines.  A variable that is set already keeps
its value, and the first line that is malformed ends the reading.
-/
import LinkWatch.Text.Alphanumeric
import LinkWatch.Text.Blank

namespace LinkWatch

/-- Variables with their values. -/
abbrev Variables := List (String × String)

namespace Variables

def get? (name : String) (vars : Variables) : Option String :=
  (vars.find? (·.1 == name)).map (·.2)

/-- Sets a variable that is not set yet. -/
def define (name value : String) (vars : Variables) : Variables :=
  if (vars.get? name).isSome then vars else vars ++ [(name, value)]

/-! ## Splitting into lines -/

/-- Where the reader of a line stands, as far as it matters for its end. -/
inductive LineState where
  | plain
  | escape
  | blank
  | strong
  | strongEscape
  | weak
  | weakEscape
deriving DecidableEq

/-- What a character outside quotes begins. -/
def LineState.afterPlain (c : Char) : LineState :=
  if c = '\\' then .escape
  else if c = '"' then .weak
  else if c = '\'' then .strong
  else .plain

/-- The state after one more character. -/
def LineState.next (c : Char) : LineState → LineState
  | .plain => if Text.isBlank c ∧ c ≠ '\n' ∧ c ≠ '\r' then .blank else .afterPlain c
  | .blank => .afterPlain c
  | .escape => .plain
  | .strong => if c = '\\' then .strongEscape else if c = '\'' then .plain else .strong
  | .strongEscape => .strong
  | .weak => if c = '\\' then .weakEscape else if c = '"' then .plain else .weak
  | .weakEscape => .weak

/-- How a physical line ends: in a comment that begins after some characters, or in a state. -/
inductive LineEnd where
  | comment (before : List Char)
  | state (s : LineState)

/-- Walks over a physical line; `done` is what came before, reversed. -/
def lineEnd (done : List Char) (s : LineState) : List Char → LineEnd
  | [] => .state s
  | c :: rest =>
    if s = .blank ∧ c = '#' then .comment done.reverse else lineEnd (c :: done) (s.next c) rest

/-- The physical lines of a text, each with its line end. -/
def physicalLines (line : List Char) : List Char → List (List Char)
  | [] => if line = [] then [] else [line.reverse]
  | c :: rest =>
    if c = '\n' then (c :: line).reverse :: physicalLines [] rest
    else physicalLines (c :: line) rest

/-- Removes the line end. -/
def dropLineEnd (cs : List Char) : List Char :=
  match cs.reverse with
  | '\n' :: '\r' :: rest => rest.reverse
  | '\n' :: rest => rest.reverse
  | _ => cs

/-- The logical lines: physical lines, joined while a quote is open. The last one is `none` when
the text ends inside one. `opened` is what was read of the current logical line. -/
def logicalLines (opened : List Char) (s : LineState) :
    List (List Char) → List (Option (List Char))
  | [] => if s = .plain then [] else [none]
  | line :: rest =>
    let all := opened ++ line
    if (all.dropWhile Text.isBlank).head? = some '#' then some [] :: logicalLines [] .plain rest
    else match lineEnd [] s line with
      | .comment before => some (opened ++ before) :: logicalLines [] .plain rest
      | .state .plain => some (dropLineEnd all) :: logicalLines [] .plain rest
      | .state t => logicalLines all t rest

/-! ## Reading a line -/

/-- Whether a character may begin the name of a variable. -/
def isNameStart (c : Char) : Bool := c.isAlpha || c = '_'

/-- Whether a character may be part of the name of a variable. -/
def isNamePart (c : Char) : Bool := c.isAlphanum || c = '_' || c = '.'

/-- Reads a name. -/
def readName? (cs : List Char) : Option (String × List Char) :=
  if (cs.head?.map isNameStart).getD false then
    some (String.ofList (cs.takeWhile isNamePart), cs.dropWhile isNamePart)
  else none

/-- Moves over an equals sign. -/
def skipEquals? : List Char → Option (List Char)
  | '=' :: rest => some rest
  | _ => none

/-- The characters without the blanks at the front. -/
def dropBlanks (cs : List Char) : List Char := cs.dropWhile Text.isBlank

/-- Reads a name and the equals sign after it; the word `export` may stand before the name. -/
def readAssigned? (cs : List Char) : Option (String × List Char) := do
  let (name, cs) ← readName? cs
  let cs := dropBlanks cs
  match skipEquals? cs with
  | some rest => some (name, rest)
  | none =>
    if name = "export" then
      let (name, cs) ← readName? cs
      let rest ← skipEquals? (dropBlanks cs)
      some (name, rest)
    else none

/-- A reference to a variable that is being read: between braces or not, with the part of its
name that was read, reversed. -/
structure Reference where
  braced : Bool
  name : List Char

/-- Where the reader of a value stands. -/
inductive ValueState where
  | plain
  | strong
  | weak
  /-- After a backslash, in double quotes or not. -/
  | escape (weak : Bool)
  /-- In a reference to a variable, in double quotes or not. -/
  | reference (weak : Bool) (r : Reference)
  /-- After a blank that ends the value. -/
  | ended

/-- The state to return to after an escape or a reference. -/
def ValueState.back (weak : Bool) : ValueState := if weak then .weak else .plain

/-- The value of a referenced variable, reversed; nothing when it is not set. -/
def resolve (vars : Variables) (reversedName : List Char) : List Char :=
  ((vars.get? (String.ofList reversedName.reverse)).getD "").toList.reverse

/-- What an escaped character stands for. -/
def escaped? (c : Char) : Option Char :=
  if c = '\\' ∨ c = '\'' ∨ c = '"' ∨ c = '$' ∨ c = ' ' then some c
  else if c = 'n' then some '\n'
  else none

/-- Reads a value; `done` is what was read of it, reversed. -/
def readValue? (vars : Variables) (done : List Char) : ValueState → List Char → Option String
  | .plain, [] => some (String.ofList done.reverse)
  | .ended, [] => some (String.ofList done.reverse)
  | .escape false, [] => some (String.ofList done.reverse)
  | .reference false ⟨false, name⟩, [] =>
    some (String.ofList (resolve vars name ++ done).reverse)
  | _, [] => none
  | .ended, c :: rest =>
    if c = ' ' ∨ c = '\t' then readValue? vars done .ended rest
    else if c = '#' then some (String.ofList done.reverse)
    else none
  | .escape weak, c :: rest =>
    match escaped? c with
    | some x => readValue? vars (x :: done) (.back weak) rest
    | none => none
  | .strong, c :: rest =>
    if c = '\'' then readValue? vars done .plain rest else readValue? vars (c :: done) .strong rest
  | .reference weak r, c :: rest =>
    if Text.isAlphanumeric c then
      readValue? vars done (.reference weak ⟨r.braced, c :: r.name⟩) rest
    else if r.braced then
      if c = '}' then readValue? vars (resolve vars r.name ++ done) (.back weak) rest
      else readValue? vars done (.reference weak ⟨true, c :: r.name⟩) rest
    else if c = '{' ∧ r.name = [] then readValue? vars done (.reference weak ⟨true, []⟩) rest
    else if c = '$' then
      readValue? vars (resolve vars r.name ++ done) (.reference weak ⟨false, []⟩) rest
    else readValue? vars (c :: (resolve vars r.name ++ done)) (.back weak) rest
  | .weak, c :: rest =>
    if c = '$' then readValue? vars done (.reference true ⟨false, []⟩) rest
    else if c = '"' then readValue? vars done .plain rest
    else if c = '\\' then readValue? vars done (.escape true) rest
    else readValue? vars (c :: done) .weak rest
  | .plain, c :: rest =>
    if c = '$' then readValue? vars done (.reference false ⟨false, []⟩) rest
    else if c = '\'' then readValue? vars done .strong rest
    else if c = '"' then readValue? vars done .weak rest
    else if c = '\\' then readValue? vars done (.escape false) rest
    else if c = ' ' ∨ c = '\t' then readValue? vars done .ended rest
    else readValue? vars (c :: done) .plain rest

/-- Reads a logical line: `none` if it is malformed, and otherwise the variable that it sets, if it
sets one. -/
def readLine? (vars : Variables) (line : List Char) : Option (Option (String × String)) :=
  let cs := dropBlanks (Text.trimBlanks line)
  if cs = [] ∨ cs.head? = some '#' then some none
  else do
    let (name, cs) ← readAssigned? cs
    let cs := dropBlanks cs
    if cs = [] ∨ cs.head? = some '#' then some (some (name, ""))
    else
      let value ← readValue? vars [] .plain cs
      some (some (name, value))

/-- Adds the variables of logical lines, up to the first malformed one. -/
def addLines (vars : Variables) : List (Option (List Char)) → Variables
  | [] => vars
  | none :: _ => vars
  | some line :: rest =>
    match readLine? vars line with
    | none => vars
    | some none => addLines vars rest
    | some (some (name, value)) => addLines (vars.define name value) rest

/-- The text without a mark of byte order at its front. -/
def dropByteOrderMark : List Char → List Char
  | '\ufeff' :: rest => rest
  | cs => cs

/-- Adds the variables of a file. -/
def addFile (vars : Variables) (text : String) : Variables :=
  addLines vars (logicalLines [] .plain (physicalLines [] (dropByteOrderMark text.toList)))

end Variables

end LinkWatch
