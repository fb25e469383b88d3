import AccountRegistry.Text.Split

/-! # Routes

A pattern is a path in which a segment may end in a name in braces. Such a segment matches any text
behind what stands before the brace, an empty one only if more segments follow; braces that are text
are written twice.
-/

namespace AccountRegistry.Http

inductive Segment
  | literal (cs : List Char)
  | capture (lead : List Char) (name : String)
  deriving DecidableEq, Repr

/-- The segments between the slashes of a path, the first one standing before its first slash. -/
abbrev Pattern := List Segment

/-- The name of a capture up to its closing brace, which ends the segment. -/
def captureName? (done : List Char) : List Char → Option String
  | [] => none
  | '\x7d' :: '\x7d' :: cs => captureName? ('\x7d' :: done) cs
  | '\x7b' :: '\x7b' :: cs => captureName? ('\x7b' :: done) cs
  | '\x7d' :: cs => if cs.isEmpty && !done.isEmpty then some (String.ofList done.reverse) else none
  | c :: cs => if c = '*' then none else captureName? (c :: done) cs

/-- A segment; `done` is what has been read of it. -/
def readSegment? (done : List Char) : List Char → Option Segment
  | [] => some (.literal done.reverse)
  | '\x7b' :: '\x7b' :: cs => readSegment? ('\x7b' :: done) cs
  | '\x7d' :: '\x7d' :: cs => readSegment? ('\x7d' :: done) cs
  | '\x7b' :: '\x7d' :: _ => none
  | '\x7b' :: cs => (captureName? [] cs).map (.capture done.reverse)
  | '\x7d' :: _ => none
  | c :: cs => readSegment? (c :: done) cs

/-- A segment that does not begin with a mark of an older notation. -/
def segment? (cs : List Char) : Option Segment :=
  match cs with
  | ':' :: _ | '*' :: _ => none
  | cs => readSegment? [] cs

/-- The segments of a path that begins with a slash. -/
def Pattern.read? (cs : List Char) : Option Pattern :=
  match cs with
  | '/' :: _ => (Text.splitAll '/' cs).mapM segment?
  | _ => none

/-- What the captures of a pattern hold, by their names. -/
abbrev Captures := List (String × List Char)

/-- What a segment captures of a text, which is the last one of its path or not. -/
def Segment.match? (s : Segment) (last : Bool) (cs : List Char) : Option Captures :=
  match s with
  | .literal l => if l = cs then some [] else none
  | .capture lead name =>
    match Text.stripStart? lead cs with
    | some held => if last && held.isEmpty then none else some [(name, held)]
    | none => none

/-- Matches segments one by one. -/
def Pattern.matchSegments : Pattern → List (List Char) → Option Captures
  | [], [] => some []
  | s :: ss, cs :: rest => do return (← s.match? ss.isEmpty cs) ++ (← matchSegments ss rest)
  | _, _ => none

def Pattern.match? (p : Pattern) (path : List Char) : Option Captures :=
  p.matchSegments (Text.splitAll '/' path)

end AccountRegistry.Http
