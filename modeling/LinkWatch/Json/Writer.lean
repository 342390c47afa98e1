/-
# Writing JSON

Two forms of a value: compact, without any blanks, and indented by two blanks a level.  In both
the members of an object keep the order in which the value holds them.
-/
import LinkWatch.Json.Value
import LinkWatch.Number.Shortest

namespace LinkWatch.Json

/-! ## Strings and numbers -/

/-- A hexadecimal digit, for `n < 16`. -/
def hexDigit (n : Nat) : Char := Nat.digitChar n

/-- One character of a string: quotes, backslashes and controls are escaped. -/
def escapedChar (c : Char) : List Char :=
  if c = '"' then ['\\', '"']
  else if c = '\\' then ['\\', '\\']
  else if c = '\x08' then ['\\', 'b']
  else if c = '\t' then ['\\', 't']
  else if c = '\n' then ['\\', 'n']
  else if c = '\x0c' then ['\\', 'f']
  else if c = '\r' then ['\\', 'r']
  else if c.toNat < 0x20 then
    ['\\', 'u', '0', '0', hexDigit (c.toNat / 16), hexDigit (c.toNat % 16)]
  else [c]

/-- A string between quotes. -/
def stringChars (s : String) : List Char := '"' :: s.toList.flatMap escapedChar ++ ['"']

/-- A whole number. -/
def intChars (z : Int) : List Char :=
  (if z < 0 then ['-'] else []) ++ Nat.toDigits 10 z.natAbs

def Number.chars : Number → List Char
  | .integer z => intChars z
  | .real x => x.chars

namespace Value

/-! ## The compact form -/

mutual

/-- The characters of the compact form. -/
def chars : Value → List Char
  | .null => ['n', 'u', 'l', 'l']
  | .bool true => ['t', 'r', 'u', 'e']
  | .bool false => ['f', 'a', 'l', 's', 'e']
  | .number n => n.chars
  | .string s => stringChars s
  | .list items => '[' :: itemsChars true items ++ [']']
  | .object members => '{' :: membersChars true members ++ ['}']

/-- The items of a list, each but the first after a comma. -/
def itemsChars (first : Bool) : List Value → List Char
  | [] => []
  | item :: rest =>
    (if first then [] else [',']) ++ chars item ++ itemsChars false rest

/-- The members of an object, each but the first after a comma. -/
def membersChars (first : Bool) : List (String × Value) → List Char
  | [] => []
  | (name, value) :: rest =>
    (if first then [] else [',']) ++ stringChars name ++ ':' :: chars value ++
      membersChars false rest

end

/-- The compact form. -/
def text (v : Value) : String := String.ofList v.chars

/-! ## The indented form -/

/-- A new line, indented to a level. -/
def newLine (level : Nat) : List Char := '\n' :: List.replicate (2 * level) ' '

mutual

/-- The characters of the indented form of a value that stands at a level. -/
def indentedChars (level : Nat) : Value → List Char
  | .null => ['n', 'u', 'l', 'l']
  | .bool true => ['t', 'r', 'u', 'e']
  | .bool false => ['f', 'a', 'l', 's', 'e']
  | .number n => n.chars
  | .string s => stringChars s
  | .list [] => ['[', ']']
  | .list (item :: rest) =>
    '[' :: indentedItems (level + 1) true (item :: rest) ++ newLine level ++ [']']
  | .object [] => ['{', '}']
  | .object ((name, value) :: rest) =>
    '{' :: indentedMembers (level + 1) true ((name, value) :: rest) ++ newLine level ++ ['}']

/-- The items of a list, each on a line of its own. -/
def indentedItems (level : Nat) (first : Bool) : List Value → List Char
  | [] => []
  | item :: rest =>
    (if first then [] else [',']) ++ newLine level ++ indentedChars level item ++
      indentedItems level false rest

/-- The members of an object, each on a line of its own. -/
def indentedMembers (level : Nat) (first : Bool) : List (String × Value) → List Char
  | [] => []
  | (name, value) :: rest =>
    (if first then [] else [',']) ++ newLine level ++ stringChars name ++ ':' :: ' ' ::
      indentedChars level value ++ indentedMembers level false rest

end

/-- The indented form. -/
def indentedText (v : Value) : String := String.ofList (v.indentedChars 0)

end Value

end LinkWatch.Json
