/-
# Quoted text

Text between quotes, for messages: the quote and the backslash are escaped, the usual controls
have short names, and every other character without a glyph of its own is written as its
number in braces.
-/
import LinkWatch.Text.Printable

namespace LinkWatch.Text

/-- The small hexadecimal digits of a number. -/
def hexDigits (n : Nat) : List Char := Nat.toDigits 16 n

/-- One character of a quoted text. -/
def quotedChar (c : Char) : List Char :=
  if c = '\u0000' then ['\\', '0']
  else if c = '\t' then ['\\', 't']
  else if c = '\r' then ['\\', 'r']
  else if c = '\n' then ['\\', 'n']
  else if c = '"' then ['\\', '"']
  else if c = '\\' then ['\\', '\\']
  else if isPlain c then [c]
  else ['\\', 'u', '{'] ++ hexDigits c.toNat ++ ['}']

/-- A text between quotes. -/
def quoted (s : String) : String :=
  String.ofList ('"' :: s.toList.flatMap quotedChar ++ ['"'])

end LinkWatch.Text
