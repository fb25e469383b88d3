import AccountRegistry.Text.Split
import AccountRegistry.Text.Utf8

/-! # Targets of requests

A target is a path with an optional query, with or without a scheme and an authority before it. Only
path and query are kept; a fragment is dropped.
-/

namespace AccountRegistry.Http

structure Uri where
  path : List Char
  query : Option (List Char)
  deriving DecidableEq, Repr

inductive UriFault
  | empty
  | tooLong
  | schemeTooLong
  | character
  | authority
  | format
  deriving DecidableEq, Repr

def UriFault.message : UriFault → String
  | .empty => "empty string"
  | .tooLong => "uri too long"
  | .schemeTooLong => "scheme too long"
  | .character => "invalid uri character"
  | .authority => "invalid authority"
  | .format => "invalid format"

namespace Uri

/-! ## Paths and queries -/

def inAny (ranges : List (Nat × Nat)) (c : Char) : Bool :=
  ranges.any fun r => r.1 ≤ c.toNat && c.toNat ≤ r.2

/-- All but controls, blanks, angle brackets and marks that end a path; nothing but a number sign is
left out of those beyond ASCII. -/
def isPathChar (c : Char) : Bool :=
  inAny [(0x21, 0x22), (0x24, 0x3B), (0x3D, 0x3D), (0x40, 0x5F), (0x61, 0x7E), (0x80, 0x10FFFF)] c

def isQueryChar (c : Char) : Bool :=
  inAny [(0x21, 0x21), (0x24, 0x3B), (0x3D, 0x3D), (0x3F, 0x7E), (0x80, 0x10FFFF)] c

def isPathEnd (c : Char) : Bool := c == '?' || c == '#'

/-- A path, which may be empty, and a query behind it. -/
def ofPath (cs : List Char) : Except UriFault Uri :=
  let path := cs.takeWhile fun c => !isPathEnd c
  if !path.all isPathChar then .error .character
  else
    let path := if path.isEmpty then ['/'] else path
    match cs.dropWhile fun c => !isPathEnd c with
    | '?' :: rest =>
      let query := rest.takeWhile (· != '#')
      if query.all isQueryChar then .ok ⟨path, some query⟩ else .error .character
    | _ => .ok ⟨path, none⟩

/-! ## Schemes and authorities -/

/-- The most characters of a scheme. -/
def maxScheme : Nat := 64

def isSchemeChar (c : Char) : Bool := c.isAlphanum || "+-.~".toList.contains c

/-- What follows a scheme and its two slashes; `none` if a text has no scheme. -/
def afterScheme? (cs : List Char) : Except UriFault (Option (List Char)) :=
  match Text.stripStart? "://".toList (cs.dropWhile isSchemeChar) with
  | none => .ok none
  | some rest =>
    if (cs.takeWhile isSchemeChar).length > maxScheme then .error .schemeTooLong
    else if (Text.Utf8.encode cs).length > 3 then .ok (some rest)
    else .ok none

/-- What has been seen of an authority. -/
structure Seen where
  colons : Nat
  opened : Bool
  closed : Bool
  percent : Bool
  endsWithAt : Bool

def Seen.nothing : Seen := ⟨0, false, false, false, false⟩

/-- Characters of an authority besides percent signs. -/
def isAuthorityChar (c : Char) : Bool := c.isAlphanum || "!$&'()*+,-.:;=@[]_~".toList.contains c

/-- Takes in one character. Colons and percent signs count only behind the last at-sign and outside
of brackets. -/
def Seen.take (s : Seen) (c : Char) : Except UriFault Seen :=
  let s := { s with endsWithAt := c == '@' }
  if c = ':' then
    if 8 ≤ s.colons then .error .authority else .ok { s with colons := s.colons + 1 }
  else if c = '[' then
    if s.percent || s.opened then .error .authority else .ok { s with opened := true }
  else if c = ']' then
    if !s.opened || s.closed then .error .authority
    else .ok { s with closed := true, colons := 0, percent := false }
  else if c = '@' then .ok { s with colons := 0, percent := false }
  else if c = '%' then .ok { s with percent := true }
  else if isAuthorityChar c then .ok s
  else .error .character

def isAuthorityEnd (c : Char) : Bool := c == '/' || c == '?' || c == '#'

/-- What follows the authority at the head of a text, with whether there is one at all. -/
def afterAuthority (cs : List Char) : Except UriFault (Bool × List Char) := do
  let authority := cs.takeWhile fun c => !isAuthorityEnd c
  let s ← authority.foldlM Seen.take .nothing
  if s.opened != s.closed || 1 < s.colons || s.endsWithAt || s.percent then throw .authority
  return (!authority.isEmpty, cs.dropWhile fun c => !isAuthorityEnd c)

/-! ## Targets -/

/-- The most bytes of a target. -/
def maxLength : Nat := 65534

/-- A text of one character. -/
def ofChar (c : Char) : Except UriFault Uri :=
  if c = '/' ∨ c = '*' then .ok ⟨[c], none⟩
  else do
    let (_, rest) ← afterAuthority [c]
    if rest.isEmpty then return ⟨[], none⟩ else throw .character

/-- A text that does not begin with a path: an authority alone, or a scheme and all that follows. -/
def ofAbsolute (cs : List Char) : Except UriFault Uri := do
  match ← afterScheme? cs with
  | none =>
    let (_, rest) ← afterAuthority cs
    if rest.isEmpty then return ⟨[], none⟩ else throw .format
  | some [] => throw .empty
  | some rest =>
    let (found, rest) ← afterAuthority rest
    if found then ofPath rest else throw .format

def read (s : String) : Except UriFault Uri :=
  let cs := s.toList
  if maxLength < (Text.Utf8.encode cs).length then .error .tooLong
  else match cs with
    | [] => .error .empty
    | [c] => if c.toNat < 0x80 then ofChar c else ofAbsolute [c]
    | c :: rest => if c = '/' then ofPath (c :: rest) else ofAbsolute (c :: rest)

end Uri

end AccountRegistry.Http
