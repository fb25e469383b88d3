/-! # Patterns

In a pattern a percent sign matches any run of characters and an underscore any one character; a
backslash takes the character after it literally.
-/

namespace AccountRegistry

inductive PatternToken
  | anyRun
  | anyOne
  | literal (c : Char)
  deriving DecidableEq, Repr

/-- The tokens of a pattern. A backslash at the end stands for itself. -/
def patternTokens : List Char → List PatternToken
  | [] => []
  | '%' :: cs => .anyRun :: patternTokens cs
  | '_' :: cs => .anyOne :: patternTokens cs
  | '\\' :: cs =>
    match cs with
    | [] => [.literal '\\']
    | c :: cs => .literal c :: patternTokens cs
  | c :: cs => .literal c :: patternTokens cs

/-- Marks every place from the first marked one on. -/
def spread (seen : Bool) : List Bool → List Bool
  | [] => []
  | b :: bs => (seen || b) :: spread (seen || b) bs

/-- How far into `text` one more token can reach from the marked places. -/
def advance (text : List Char) (reached : List Bool) : PatternToken → List Bool
  | .anyRun => spread false reached
  | .anyOne => false :: List.zipWith (fun b _ => b) reached text
  | .literal c => false :: List.zipWith (fun b t => b && t == c) reached text

/-- Whether a pattern matches the whole of a text: the places that its tokens can reach are followed
token by token. -/
def likeChars (pattern text : List Char) : Bool :=
  let start := true :: text.map fun _ => false
  (((patternTokens pattern).foldl (advance text) start).getLast?).getD false

def likeText (pattern text : String) : Bool := likeChars pattern.toList text.toList

end AccountRegistry
