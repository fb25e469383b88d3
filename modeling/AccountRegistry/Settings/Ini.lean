import AccountRegistry.Json.Lexeme
import AccountRegistry.Text.Blank

/-! # Sections of settings

The INI format: pairs of keys and values, all of them texts, in sections with names. Of two sections
of one name the later one counts, and of two pairs of one key the later pair.
-/

namespace AccountRegistry.Ini

open Json Text

/-- Reads something from the head of a text. -/
abbrev Part (α : Type) := List Char → Option (α × List Char)

def isLineEnd (c : Char) : Bool := c == '\n' || c == '\r'

/-- A character given by four hexadecimal digits. -/
def scalar : Part Char
  | a :: b :: c :: d :: cs =>
    match hexQuad? a b c d with
    | some n => if isHighSurrogate n || isLowSurrogate n then none else some (Char.ofNat n, cs)
    | none => none
  | _ => none

/-- What an escape stands for, after its backslash; a line end is dropped, and most characters stand
for themselves. -/
def escape : Part (List Char)
  | [] => none
  | c :: cs =>
    if c = 'x' then (scalar cs).map fun p => ([p.1], p.2)
    else if c = '\n' then some ([], cs)
    else if c = '0' then some ([Char.ofNat 0], cs)
    else if c = 'a' then some ([Char.ofNat 7], cs)
    else if c = 'b' then some ([Char.ofNat 8], cs)
    else if c = 't' then some (['\t'], cs)
    else if c = 'r' then some (['\r'], cs)
    else if c = 'n' then some (['\n'], cs)
    else some ([c], cs)

/-- Characters up to one that ends them, which stays unread; `atEnd` says whether the end of the
text will do as well. `done` is what has been read, backwards. -/
def charsUntil (ends : Char → Bool) (atEnd : Bool) (done : List Char) : Nat → Part (List Char)
  | 0, _ => none
  | _, [] => if atEnd then some (done.reverse, []) else none
  | fuel + 1, c :: cs =>
    if ends c then some (done.reverse, c :: cs)
    else if c = '\\' then
      match escape cs with
      | some (xs, cs) => charsUntil ends atEnd (xs.reverse ++ done) fuel cs
      | none => none
    else charsUntil ends atEnd (c :: done) fuel cs

/-- The text before a mark, without blanks around it, and what follows the mark. -/
def nameBefore (mark : Char) : Part String := fun cs => do
  let (name, cs) ← charsUntil (· == mark) false [] (cs.length + 1) cs
  return (String.ofList (trim name), cs.drop 1)

/-- A value up to the end of its line. It may begin with texts in quotation marks; blanks are
dropped at its end and in front of it. -/
def value (done : List Char) (first : Bool) : Nat → Part String
  | 0, _ => none
  | _, [] => some (String.ofList done, [])
  | fuel + 1, c :: cs =>
    if c = '"' ∨ c = '\'' then do
      let (quoted, cs) ← charsUntil (· == c) false [] (cs.length + 1) cs
      value (done ++ quoted) false fuel (cs.drop 1)
    else do
      let (line, cs) ← charsUntil isLineEnd true [] (cs.length + 2) (c :: cs)
      return (String.ofList (done ++ if first then trim line else trimEnd line), cs)

/-- Drops blanks and line ends; tells whether what follows begins a line. -/
def skipBlanks (atStart : Bool) : List Char → Bool × List Char
  | [] => (atStart, [])
  | c :: cs => if isBlank c then skipBlanks (c == '\n') cs else (atStart, c :: cs)

def isLineBlank (c : Char) : Bool := isBlank c && !isLineEnd c

/-- Pairs under the name of their section, if they have one. -/
abbrev Section := Option String × List (String × Value)

/-- Adds a pair to the current section, which is the first one. -/
def addPair (key value : String) : List Section → List Section
  | [] => [(none, [(key, .string value)])]
  | (name, pairs) :: rest => (name, pairs ++ [(key, .string value)]) :: rest

/-- All sections, the last one first. A comment takes a line of its own. -/
def sections : Nat → (atStart : Bool) → List Section → List Char → Option (List Section)
  | 0, _, _, _ => none
  | fuel + 1, atStart, done, cs =>
    match skipBlanks atStart cs with
    | (_, []) => some done
    | (atStart, c :: cs) =>
      if c = ';' ∨ c = '#' then
        if atStart then sections fuel true done ((cs.dropWhile (· != '\n')).drop 1) else none
      else if c = '[' then do
        let (name, cs) ← nameBefore ']' cs
        sections fuel false ((some name, []) :: done) cs
      else do
        let ends (c : Char) : Bool := c == '=' || c == ':'
        let (key, cs) ← charsUntil ends false [] (cs.length + 2) (c :: cs)
        let key := trim key
        if key.isEmpty then none
        let cs := (cs.drop 1).dropWhile isLineBlank
        let (v, cs) ← value [] true (cs.length + 1) cs
        sections fuel false (addPair (String.ofList key) v done) cs

/-- The members of a section beside or below those read before. -/
def lay (table : List (String × Value)) : Section → List (String × Value)
  | (some name, pairs) => insertMember name (.object (canonicalMembers [] pairs)) table
  | (none, pairs) => canonicalMembers table pairs

/-- The table that a text holds. -/
def parse (s : String) : Option (List (String × Value)) :=
  (sections (s.length + 1) true [] s.toList).map fun found => found.reverse.foldl lay []

end AccountRegistry.Ini
