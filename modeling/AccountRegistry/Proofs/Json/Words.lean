import AccountRegistry.Proofs.Json.Progress

/-! # Words and numbers

A JSON text without quotes and opening brackets is a word or a number, so that no percent sign
stands in it.
-/

namespace AccountRegistry.Json

variable {cs rest : List Char}

theorem ne_percent_of_isDigit {c : Char} (h : c.isDigit = true) : c ≠ '%' := by
  rintro rfl
  cases h

theorem ne_percent_of_isExponentMark {c : Char} (h : isExponentMark c = true) : c ≠ '%' := by
  rintro rfl
  cases h

theorem mem_dropWhile {p : Char → Bool} {c : Char} (hc : p c = false) (h : c ∈ cs) :
    c ∈ cs.dropWhile p := by
  induction cs with
  | nil => exact h
  | cons d cs ih =>
    rw [List.dropWhile_cons]
    split
    · next hd =>
      rcases List.mem_cons.mp h with rfl | h
      · rw [hc] at hd
        cases hd
      · exact ih h
    · exact h

theorem percent_mem_skipSpace (h : '%' ∈ cs) : '%' ∈ skipSpace cs := mem_dropWhile (by decide) h

theorem percent_mem_afterDigits (h : '%' ∈ cs) : '%' ∈ afterDigits cs := mem_dropWhile (by decide) h

theorem percent_mem_of_word {es : List Char} {u : Unit} (h : word es cs = .ok (u, rest))
    (hes : '%' ∉ es) (hcs : '%' ∈ cs) : '%' ∈ rest := by
  fun_induction word es cs <;> grind [stopAt_ne_ok]

theorem percent_mem_exponentDigits (n : Nat) (h : '%' ∈ cs) : '%' ∈ (exponentDigits n cs).2 := by
  fun_induction exponentDigits n cs <;> grind [→ ne_percent_of_isDigit]

theorem percent_mem_of_exponentPart {positive : Bool} {n : Nat} {e : Int} {x : Float}
    (h : exponentPart positive n e cs = .ok (x, rest)) (hcs : '%' ∈ cs) : '%' ∈ rest := by
  unfold exponentPart at h
  grind [percent_mem_exponentDigits, → floatOfParts_rest, percent_mem_afterDigits, stopAt_ne_ok,
    → ne_percent_of_isDigit]

theorem percent_mem_of_fractionPart {positive : Bool} {n : Nat} {e : Int} {x : Float}
    (h : fractionPart positive n e cs = .ok (x, rest)) (hcs : '%' ∈ cs) : '%' ∈ rest := by
  unfold fractionPart at h
  grind [→ percent_mem_of_exponentPart, → floatOfParts_rest, percent_mem_afterDigits, stopAt_ne_ok,
    stopSeeing_ne_ok, → ne_percent_of_isExponentMark]

theorem percent_mem_of_numberTail {positive : Bool} {n m : Nat} {x : Number}
    (h : numberTail positive n m cs = .ok (x, rest)) (hcs : '%' ∈ cs) : '%' ∈ rest := by
  unfold numberTail at h
  grind [→ percent_mem_of_exponentPart, → percent_mem_of_fractionPart, → floatOfParts_rest,
    → toFloat_eq_ok]

theorem percent_mem_of_numberBody {positive : Bool} {x : Number}
    (h : numberBody positive cs = .ok (x, rest)) (hcs : '%' ∈ cs) : '%' ∈ rest := by
  unfold numberBody at h
  grind [→ percent_mem_of_numberTail, percent_mem_afterDigits, stopAt_ne_ok, stopSeeing_ne_ok,
    → ne_percent_of_isDigit]

/-- A text without quotes and opening brackets. -/
def IsBare (cs : List Char) : Prop := ∀ c ∈ cs, c ≠ '"' ∧ c ≠ '[' ∧ c ≠ '\x7b'

theorem mem_of_skipSpace {c : Char} {r : List Char} (h : skipSpace cs = c :: r) : c ∈ cs := by
  apply (List.dropWhile_sublist isSpace).subset
  rw [← skipSpace, h]
  exact List.mem_cons_self

theorem percent_mem_of_value {depth : Nat} {v : Value} (h : value depth cs = .ok (v, rest))
    (hbare : IsBare cs) (hcs : '%' ∈ cs) : '%' ∈ rest := by
  have hmem := percent_mem_skipSpace hcs
  cases depth with
  | zero => cases h
  | succ depth =>
    unfold value at h
    split at h
    · cases h
    iterate 3 · next hc =>
      obtain ⟨⟨_, _⟩, hword, h⟩ := map_eq_ok_iff.mp h
      cases h
      rw [hc] at hmem
      exact percent_mem_of_word hword (by decide) (List.mem_of_ne_of_mem (by decide) hmem)
    · next hc =>
      obtain ⟨⟨_, _⟩, hnumber, h⟩ := map_eq_ok_iff.mp h
      cases h
      rw [hc] at hmem
      exact percent_mem_of_numberBody hnumber (List.mem_of_ne_of_mem (by decide) hmem)
    · next hc => exact absurd rfl (hbare _ (mem_of_skipSpace hc)).1
    · next hc => exact absurd rfl (hbare _ (mem_of_skipSpace hc)).2.1
    · next hc => exact absurd rfl (hbare _ (mem_of_skipSpace hc)).2.2
    · next hc =>
      split at h
      · obtain ⟨⟨_, _⟩, hnumber, h⟩ := map_eq_ok_iff.mp h
        cases h
        rw [hc] at hmem
        exact percent_mem_of_numberBody hnumber hmem
      · cases h

/-- Such a text is not JSON if it has a percent sign. -/
theorem percent_not_mem_of_parseChars {v : Value} (h : parseChars cs = .ok v) (hbare : IsBare cs) :
    '%' ∉ cs := by
  intro hcs
  obtain ⟨⟨_, rest⟩, hvalue, h⟩ := bind_eq_ok_iff.mp h
  obtain ⟨_, hend, -⟩ := bind_eq_ok_iff.mp h
  have hrest := percent_mem_skipSpace (percent_mem_of_value hvalue hbare hcs)
  rw [endOfText_eq_ok_iff.mp hend] at hrest
  cases hrest

end AccountRegistry.Json
