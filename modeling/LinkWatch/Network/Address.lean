/-
# Addresses of servers

The scheme and the authority of an address, and the host and the port that a connection to it
is opened to.  What follows the authority is checked but not kept.
-/
import LinkWatch.Config.Overrides
import LinkWatch.Fault

namespace LinkWatch

/-- An address: one without an authority names no host. -/
structure Address where
  scheme? : Option String
  authority? : Option String
deriving DecidableEq

namespace Address

/-! ## The scheme -/

/-- Whether a character may be part of a scheme. -/
def isSchemePart (c : Char) : Bool := c.isAlphanum || "+-.~".toList.contains c

/-- The longest scheme. -/
def maxScheme : Nat := 64

/-- The characters without a few at the front, which are compared in letters of either case. -/
def dropWord? (word cs : List Char) : Option (List Char) :=
  if (cs.take word.length).map Char.toLower = word then some (cs.drop word.length) else none

/-- Takes the scheme and the `://` after it from the front, if they are there. -/
def readScheme (cs : List Char) : Except AddressFault (Option (String × List Char)) :=
  match dropWord? "http://".toList cs, dropWord? "https://".toList cs with
  | some rest, _ => .ok (some ("http", rest))
  | none, some rest => .ok (some ("https", rest))
  | none, none =>
    let scheme := cs.takeWhile isSchemePart
    match dropWord? "://".toList (cs.drop scheme.length) with
    | none => .ok none
    | some rest =>
      if cs.length ≤ 3 then .ok none
      else if maxScheme < scheme.length then .error .schemeTooLong
      else .ok (some (String.ofList scheme, rest))

/-! ## The authority -/

/-- Whether a character ends the authority. -/
def endsAuthority (c : Char) : Bool := c = '/' || c = '?' || c = '#'

/-- Whether a character may be part of the authority. -/
def isAuthorityPart (c : Char) : Bool := c.isAlphanum || "!$&'()*+,-.;=_~".toList.contains c

/-- What has been seen of an authority. -/
structure Scan where
  /-- The colons, without those in a user name or in brackets. -/
  colons : Nat := 0
  opened : Bool := false
  closed : Bool := false
  /-- Whether there is a percent sign outside of them. -/
  percent : Bool := false
  /-- Whether the last character was the sign after a user name. -/
  afterUser : Bool := false

namespace Scan

/-- The most colons there may be. -/
def maxColons : Nat := 8

/-- One more character. -/
def next (s : Scan) (c : Char) : Except AddressFault Scan :=
  let s := { s with afterUser := false }
  if c = ':' then
    if maxColons ≤ s.colons then .error .badAuthority else .ok { s with colons := s.colons + 1 }
  else if c = '[' then
    if s.percent ∨ s.opened then .error .badAuthority else .ok { s with opened := true }
  else if c = ']' then
    if ¬s.opened ∨ s.closed then .error .badAuthority
    else .ok { s with closed := true, colons := 0, percent := false }
  else if c = '@' then .ok { s with afterUser := true, colons := 0, percent := false }
  else if c = '%' then .ok { s with percent := true }
  else if isAuthorityPart c then .ok s
  else .error .badCharacter

/-- The end of the authority. -/
def finish (s : Scan) : Except AddressFault Unit :=
  if s.opened ≠ s.closed ∨ 1 < s.colons ∨ s.afterUser ∨ s.percent then .error .badAuthority
  else .ok ()

end Scan

/-- Takes the authority from the front. -/
def readAuthority (cs : List Char) : Except AddressFault (List Char × List Char) := do
  if cs = [] then .error .empty
  else
    let authority := cs.takeWhile (!endsAuthority ·)
    let s ← authority.foldlM Scan.next {}
    s.finish
    .ok (authority, cs.drop authority.length)

/-! ## What follows -/

/-- Whether a character may be part of a query. -/
def isQueryPart (c : Char) : Bool :=
  let n := c.toNat
  n = 0x21 || (0x24 ≤ n && n ≤ 0x3b) || n = 0x3d || 0x3f ≤ n

/-- Whether a character may be part of a path. -/
def isPathPart (c : Char) : Bool :=
  c = '"' || (isQueryPart c && c ≠ '?' && c ≠ '`')

/-- Checks a path with all that follows; what comes after the sign for a place in a document may
be anything. -/
def checkPath (cs : List Char) : Except AddressFault Unit :=
  let cs := cs.takeWhile (· ≠ '#')
  let query := (cs.dropWhile (· ≠ '?')).drop 1
  if (cs.takeWhile (· ≠ '?')).all isPathPart ∧ query.all isQueryPart then .ok ()
  else .error .badCharacter

/-! ## The whole address -/

/-- The largest size, in bytes. -/
def maxSize : Nat := 65534

/-- An address with an authority. -/
def ofAuthority (scheme? : Option String) (authority : List Char) : Address :=
  ⟨scheme?, some (String.ofList authority)⟩

/-- Reads an address that does not begin with a path. -/
def parseFull (cs : List Char) : Except AddressFault Address := do
  match ← readScheme cs with
  | some (scheme, rest) =>
    let (authority, rest) ← readAuthority rest
    if authority = [] then .error .badFormat
    else
      checkPath rest
      .ok (ofAuthority (some scheme) authority)
  | none =>
    let (authority, rest) ← readAuthority cs
    if rest = [] then .ok (ofAuthority none authority) else .error .badFormat

/-- Reads an address. -/
def parse (s : String) : Except AddressFault Address :=
  if maxSize < s.utf8ByteSize then .error .tooLong
  else match s.toList with
    | [] => .error .empty
    | ['*'] => .ok ⟨none, none⟩
    | '/' :: rest => (checkPath rest).map fun () => ⟨none, none⟩
    | [c] =>
      if endsAuthority c then .error .badCharacter else parseFull [c]
    | cs => parseFull cs

end Address

/-! ## Host and port -/

/-- Where a connection is opened to. -/
structure Endpoint where
  host : String
  port : Nat
deriving DecidableEq

namespace Address

/-- The part of an authority after the user name. -/
def hostAndPort (authority : List Char) : List Char :=
  (authority.reverse.takeWhile (· ≠ '@')).reverse

/-- The host in an authority; a numeric one may stand in brackets. -/
def host (authority : List Char) : List Char :=
  match hostAndPort authority with
  | '[' :: rest => rest.takeWhile (· ≠ ']')
  | cs => cs.takeWhile (· ≠ ':')

/-- The number after the last colon of an authority. -/
def port? (authority : List Char) : Option Nat := do
  if authority.contains ':' then
    let n ← parseWord? (String.ofList (authority.reverse.takeWhile (· ≠ ':')).reverse)
    if n.toNat ≤ 65535 then some n.toNat else none
  else none

/-- The port that a scheme stands for. -/
def defaultPort? (scheme? : Option String) : Option Nat :=
  if scheme? = some "ws" then some 80
  else if scheme? = some "wss" then some 443
  else none

/-- Where a connection to an address is opened to. -/
def endpoint (a : Address) : Except SocketFault Endpoint :=
  match a.authority? with
  | none => .error .noHost
  | some authority =>
    match (port? authority.toList).or (defaultPort? a.scheme?) with
    | some port => .ok ⟨String.ofList (host authority.toList), port⟩
    | none => .error .unsupportedScheme

end Address

end LinkWatch
