/-
# What can be wrong with a JSON text

The causes for which a text or a value is refused, the place in the text where that was noticed,
and the message for both.
-/
import LinkWatch.Json.Writer
import LinkWatch.Text.Quoted

namespace LinkWatch.Json

/-- What was found where something else was expected. -/
inductive Found where
  | null
  | bool (value : Bool)
  | number (value : Number)
  | string (value : String)
  | list
  | object

/-- What a value is, seen as something unexpected. -/
def Value.found : Value → Found
  | .null => .null
  | .bool b => .bool b
  | .number n => .number n
  | .string s => .string s
  | .list _ => .list
  | .object _ => .object

def Found.message : Found → String
  | .null => "null"
  | .bool b => "boolean `" ++ (if b then "true" else "false") ++ "`"
  | .number (.integer z) => "integer `" ++ String.ofList (intChars z) ++ "`"
  | .number (.real x) => "floating point `" ++ String.ofList x.chars ++ "`"
  | .string s => "string " ++ Text.quoted s
  | .list => "sequence"
  | .object => "map"

/-- Why a text or a value was refused. -/
inductive Cause where
  | endInValue
  | endInList
  | endInObject
  | endInString
  | expectedColon
  | expectedListCommaOrEnd
  | expectedObjectCommaOrEnd
  | expectedWord
  | expectedValue
  | invalidEscape
  | invalidNumber
  | numberOutOfRange
  | controlCharacter
  | keyMustBeString
  | loneSurrogate
  | endOfHexEscape
  | trailingComma
  | trailingCharacters
  | nestedTooDeeply
  /-- A value of another type. -/
  | invalidType (found : Found) (expected : String)
  /-- A value of the right type that is not allowed. -/
  | invalidValue (found : Found) (expected : String)
  /-- A list with too few or too many elements. -/
  | invalidLength (length : Nat) (expected : String)
  /-- A name that is none of the allowed ones. -/
  | unknownVariant (name : String) (allowed : List String)
  | missingField (name : String)
  | duplicateField (name : String)
  /-- A string that its own notation refuses. -/
  | malformed (message : String)

/-- A list of names, each in backticks, as an alternative. -/
def oneOf : List String → String
  | [] => "no variants"
  | [a] => "`" ++ a ++ "`"
  | [a, b] => "`" ++ a ++ "` or `" ++ b ++ "`"
  | names => "one of " ++ ", ".intercalate (names.map fun a => "`" ++ a ++ "`")

def Cause.message : Cause → String
  | .endInValue => "EOF while parsing a value"
  | .endInList => "EOF while parsing a list"
  | .endInObject => "EOF while parsing an object"
  | .endInString => "EOF while parsing a string"
  | .expectedColon => "expected `:`"
  | .expectedListCommaOrEnd => "expected `,` or `]`"
  | .expectedObjectCommaOrEnd => "expected `,` or `\x7d`"
  | .expectedWord => "expected ident"
  | .expectedValue => "expected value"
  | .invalidEscape => "invalid escape"
  | .invalidNumber => "invalid number"
  | .numberOutOfRange => "number out of range"
  | .controlCharacter => "control character (\\u0000-\\u001F) found while parsing a string"
  | .keyMustBeString => "key must be a string"
  | .loneSurrogate => "lone leading surrogate in hex escape"
  | .endOfHexEscape => "unexpected end of hex escape"
  | .trailingComma => "trailing comma"
  | .trailingCharacters => "trailing characters"
  | .nestedTooDeeply => "recursion limit exceeded"
  | .invalidType found expected => "invalid type: " ++ found.message ++ ", expected " ++ expected
  | .invalidValue found expected =>
    "invalid value: " ++ found.message ++ ", expected " ++ expected
  | .invalidLength length expected =>
    "invalid length " ++ toString length ++ ", expected " ++ expected
  | .unknownVariant name allowed =>
    "unknown variant `" ++ name ++ "`, expected " ++ oneOf allowed
  | .missingField name => "missing field `" ++ name ++ "`"
  | .duplicateField name => "duplicate field `" ++ name ++ "`"
  | .malformed message => message

/-- A place in a text: lines are counted from 1, and columns in bytes since the line began. -/
structure Position where
  line : Nat
  column : Nat
deriving DecidableEq

/-- A cause, with the place where it was noticed if a text was being read. -/
structure Error where
  cause : Cause
  position? : Option Position

def Error.message (e : Error) : String :=
  match e.position? with
  | none => e.cause.message
  | some p =>
    e.cause.message ++ " at line " ++ toString p.line ++ " column " ++ toString p.column

end LinkWatch.Json
