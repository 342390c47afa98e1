/-
# JSON values

Values with exact whole numbers and floating-point numbers apart, and with the members of an
object in a list.  The values that the reader makes have their members sorted by name, each
name once.
-/
import LinkWatch.Number.Binary64

namespace LinkWatch.Json

/-- A number: a whole number, or a floating-point number. The reader makes a whole number of
those in `-2 ^ 63 … 2 ^ 64 - 1` that are written without point and exponent. -/
inductive Number where
  | integer (value : Int)
  | real (value : Binary64)
deriving DecidableEq

/-- Equality as numbers of one kind: the two floating-point zeros are the same. -/
def Number.sameValue : Number → Number → Bool
  | .integer a, .integer b => a == b
  | .real x, .real y => x.sameValue y
  | _, _ => false

/-- The floating-point number nearest to a number. -/
def Number.toBinary64? : Number → Option Binary64
  | .integer z => Binary64.ofInt? z
  | .real x => some x

/-- A JSON value. -/
inductive Value where
  | null
  | bool (value : Bool)
  | number (value : Number)
  | string (value : String)
  | list (items : List Value)
  | object (members : List (String × Value))

namespace Value

/-- A whole number as a value. -/
def int (z : Int) : Value := .number (.integer z)

/-- A value that may be absent, `null` standing for nothing. -/
def orNull (write : α → Value) : Option α → Value
  | none => .null
  | some a => write a

/-! ## Members of an object -/

/-- Sets the member `name`, keeping the members sorted by name. -/
def insertMember (name : String) (value : Value) :
    List (String × Value) → List (String × Value)
  | [] => [(name, value)]
  | (other, old) :: rest =>
    if name = other then (name, value) :: rest
    else if name < other then (name, value) :: (other, old) :: rest
    else (other, old) :: insertMember name value rest

/-- The value of the first member with a name. -/
def member? (name : String) : Value → Option Value
  | .object members => (members.find? (·.1 == name)).map (·.2)
  | _ => none

/-! ## Equality -/

mutual

/-- Equality of values, numbers being compared as numbers. -/
def sameValue : Value → Value → Bool
  | .null, .null => true
  | .bool a, .bool b => a == b
  | .number a, .number b => a.sameValue b
  | .string a, .string b => a == b
  | .list a, .list b => sameItems a b
  | .object a, .object b => sameMembers a b
  | _, _ => false

/-- Equality of lists of values, item by item. -/
def sameItems : List Value → List Value → Bool
  | [], [] => true
  | a :: as, b :: bs => sameValue a b && sameItems as bs
  | _, _ => false

/-- Equality of members, in their order. -/
def sameMembers : List (String × Value) → List (String × Value) → Bool
  | [], [] => true
  | (k, a) :: as, (l, b) :: bs => k == l && sameValue a b && sameMembers as bs
  | _, _ => false

end

end Value

end LinkWatch.Json
