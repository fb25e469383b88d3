import AccountRegistry.Json.Reader

/-! # Skipping values

A value that nobody asks for is only checked for its outline: it may nest to any depth, its numbers
may have any size and its escapes may be any four digits.
-/

namespace AccountRegistry.Json

/-- The rest of a skipped string. -/
def skipString : Reader Unit
  | [] => stopAt .endInString [] 0
  | '"' :: cs => .ok ((), cs)
  | '\\' :: cs =>
    match cs with
    | [] => stopAt .endInString [] 0
    | 'u' :: r =>
      match r with
      | a :: b :: c :: d :: r =>
        match hexQuad? a b c d with
        | none => stopAt .invalidEscape (a :: b :: c :: d :: r) 4
        | some _ => skipString r
      | r => noHexQuad r
    | e :: r =>
      match shortEscape? e with
      | some _ => skipString r
      | none => stopAt .invalidEscape (e :: r) 1
  | c :: cs => if c.toNat < 32 then stopAt .controlCharacter (c :: cs) 0 else skipString cs

/-- The exponent part of a skipped number, after its letter. -/
def skipExponent (cs : List Char) : Except Fault (Unit × List Char) :=
  let cs := match cs with
    | '+' :: r | '-' :: r => r
    | r => r
  match cs with
  | c :: r => if c.isDigit then .ok ((), afterDigits r) else stopAt .invalidNumber (c :: r) 1
  | [] => stopAt .invalidNumber [] 0

/-- The fraction of a skipped number, after its point. -/
def skipFraction (cs : List Char) : Except Fault (Unit × List Char) :=
  if (digitsOf cs).isEmpty then stopSeeing .invalidNumber cs
  else match afterDigits cs with
    | c :: r => if isExponentMark c then skipExponent r else .ok ((), c :: r)
    | [] => .ok ((), [])

/-- A skipped number, its sign apart. -/
def skipNumber : Reader Unit
  | [] => stopAt .invalidNumber [] 0
  | c :: cs =>
    if c.isDigit then
      let rest := if c = '0' then cs else afterDigits cs
      match rest with
      | '.' :: r => skipFraction r
      | 'e' :: r | 'E' :: r => skipExponent r
      | d :: r =>
        if d.isDigit then stopSeeing .invalidNumber (d :: r) else .ok ((), d :: r)
      | [] => .ok ((), [])
    else stopAt .invalidNumber (c :: cs) 1

/-- A list or an object that is being skipped. -/
inductive Frame | list | object

/-- Leaves every container that closes here. `comma` tells whether an entry has just been
skipped. -/
def leave : Nat → Bool → Frame → List Frame → Reader (Option (List Frame))
  | 0, _, _, _, cs => stopSeeing .expectedValue cs
  | fuel + 1, comma, frame, outer, cs =>
    let up (r : List Char) : Except Fault (Option (List Frame) × List Char) :=
      match outer with
      | [] => .ok (none, r)
      | f :: outer => leave fuel true f outer r
    match skipSpace cs, frame with
    | [], .list => stopAt .endInList [] 0
    | [], .object => stopAt .endInObject [] 0
    | ']' :: r, .list => up r
    | '\x7d' :: r, .object => up r
    | c :: r, frame =>
      if comma then
        if c = ',' then .ok (some (frame :: outer), r)
        else
          stopSeeing (match frame with | .list => .expectedItemEnd | .object => .expectedMemberEnd)
            (c :: r)
      else .ok (some (frame :: outer), c :: r)

/-- The key and colon that an entry of an object starts with. -/
def skipKey : Reader Unit := fun cs =>
  match skipSpace cs with
  | [] => stopAt .endInObject [] 0
  | '"' :: r => do
    let ((), cs) ← skipString r
    colon cs
  | r => stopSeeing .keyNotString r

/-- A skipped value inside the containers of `frames`, innermost first. -/
def skipWithin : Nat → List Frame → Reader Unit
  | 0, _, cs => stopSeeing .expectedValue cs
  | fuel + 1, frames, cs =>
    let resume (next : Option (List Frame) × List Char) : Except Fault (Unit × List Char) :=
      match next with
      | (none, cs) => .ok ((), cs)
      | (some frames, cs) => do
        let ((), cs) ← match frames with
          | .object :: _ => skipKey cs
          | _ => .ok ((), cs)
        skipWithin fuel frames cs
    let done (r : Except Fault (Unit × List Char)) : Except Fault (Unit × List Char) := do
      let ((), cs) ← r
      match frames with
      | [] => return ((), cs)
      | f :: outer => resume (← leave (frames.length + 1) true f outer cs)
    match skipSpace cs with
    | [] => stopAt .endInValue [] 0
    | 'n' :: r => done (word "ull".toList r)
    | 't' :: r => done (word "rue".toList r)
    | 'f' :: r => done (word "alse".toList r)
    | '-' :: r => done (skipNumber r)
    | '"' :: r => done (skipString r)
    | '[' :: r => do resume (← leave (frames.length + 2) false .list frames r)
    | '\x7b' :: r => do resume (← leave (frames.length + 2) false .object frames r)
    | c :: r => if c.isDigit then done (skipNumber (c :: r)) else stopSeeing .expectedValue (c :: r)

def skip : Reader Unit := fun cs => skipWithin (cs.length + 1) [] cs

end AccountRegistry.Json
