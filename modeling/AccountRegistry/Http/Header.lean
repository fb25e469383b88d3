/-! # Header fields

A field has a name, read without regard to letter case, and a value. Values hold no control
characters but tabs.
-/

namespace AccountRegistry.Http

/-- Characters of names and methods. -/
def isTokenChar (c : Char) : Bool :=
  c.isAlphanum || "!#$%&'*+-.^_|~".toList.contains c || c.toNat == 0x60

def isToken (s : String) : Bool := !s.isEmpty && s.toList.all isTokenChar

/-- Characters that may stand in a value. -/
def isValueChar (c : Char) : Bool := c == '\t' || (0x20 ≤ c.toNat && c.toNat != 0x7F)

def isValue (s : String) : Bool := s.toList.all isValueChar

/-- Whether a value can be read as text: it is ASCII. -/
def isReadable (s : String) : Bool := s.toList.all fun c => isValueChar c && c.toNat < 0x80

/-- Fields in order, with their names in lower case. -/
abbrev Headers := List (String × String)

namespace Headers

/-- The value of the first field of a name. -/
def first? (hs : Headers) (name : String) : Option String := hs.lookup name

/-- The values of all fields of a name. -/
def all (hs : Headers) (name : String) : List String := (hs.filter (·.1 == name)).map Prod.snd

end Headers

end AccountRegistry.Http
