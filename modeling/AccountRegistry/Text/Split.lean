/-! # Splitting texts

A text cut at the first, at the last or at every occurrence of a separator.
-/

namespace AccountRegistry.Text

/-- What follows `start` at the head of a text. -/
def stripStart? : (start cs : List Char) → Option (List Char)
  | [], cs => some cs
  | s :: start, c :: cs => if s = c then stripStart? start cs else none
  | _ :: _, [] => none

/-- The parts before and after the first occurrence of `sep`. -/
def splitFirst? (sep : List Char) : List Char → Option (List Char × List Char)
  | [] => (stripStart? sep []).map fun rest => ([], rest)
  | c :: cs =>
    match stripStart? sep (c :: cs) with
    | some rest => some ([], rest)
    | none => (splitFirst? sep cs).map fun p => (c :: p.1, p.2)

/-- The parts before and after the last occurrence of `sep`. -/
def splitLast? (sep : List Char) : List Char → Option (List Char × List Char)
  | [] => (stripStart? sep []).map fun rest => ([], rest)
  | c :: cs =>
    match splitLast? sep cs with
    | some p => some (c :: p.1, p.2)
    | none => (stripStart? sep (c :: cs)).map fun rest => ([], rest)

/-- The parts between all occurrences of `sep`. -/
def splitAll {α : Type} [DecidableEq α] (sep : α) : List α → List (List α)
  | [] => [[]]
  | c :: cs =>
    if c = sep then [] :: splitAll sep cs
    else match splitAll sep cs with
      | [] => [[c]]
      | first :: others => (c :: first) :: others

theorem eq_append_of_stripStart? {start cs rest : List Char}
    (h : stripStart? start cs = some rest) : cs = start ++ rest := by
  induction start generalizing cs with
  | nil => simpa [stripStart?] using h
  | cons s start ih =>
    cases cs with
    | nil => simp [stripStart?] at h
    | cons c cs =>
      by_cases hc : s = c
      · simp only [stripStart?, hc, if_true] at h
        simp [ih h, hc]
      · simp [stripStart?, hc] at h

/-- Splitting loses nothing. -/
theorem eq_append_of_splitFirst? {sep cs a b : List Char}
    (h : splitFirst? sep cs = some (a, b)) : cs = a ++ sep ++ b := by
  induction cs generalizing a b with
  | nil =>
    simp only [splitFirst?, Option.map_eq_some_iff] at h
    obtain ⟨rest, hr, he⟩ := h
    cases he
    simpa using eq_append_of_stripStart? hr
  | cons c cs ih =>
    simp only [splitFirst?] at h
    split at h
    · next rest hr =>
      cases h
      simpa using eq_append_of_stripStart? hr
    · simp only [Option.map_eq_some_iff] at h
      obtain ⟨p, hp, he⟩ := h
      cases he
      simp [ih hp]

end AccountRegistry.Text
