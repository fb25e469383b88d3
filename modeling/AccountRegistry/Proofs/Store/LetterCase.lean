import AccountRegistry.Proofs.Store.Like
import AccountRegistry.Proofs.Text.LowerCase
import AccountRegistry.Query.Operator
import AccountRegistry.Store.Evaluation

/-! # Patterns in any letter case

Matching in any letter case lowers the pattern and the text as a whole. What matches letter by
letter still matches then, except where lower case is not a matter of single characters: a dotted
capital I becomes two, which is one too many for an underscore, and a capital sigma takes the form
that its neighbours ask for, which a wildcard in the pattern hides.
-/

namespace AccountRegistry

namespace IsLike

variable {cs text : List Char}

theorem anyRun (run : List Char) (h : IsLike cs text) : IsLike ('%' :: cs) (run ++ text) := by
  obtain ⟨pieces, hpieces, rfl⟩ := h
  exact ⟨run :: pieces, hpieces.anyRun run, rfl⟩

theorem anyOne (x : Char) (h : IsLike cs text) : IsLike ('_' :: cs) (x :: text) := by
  obtain ⟨pieces, hpieces, rfl⟩ := h
  exact ⟨[x] :: pieces, hpieces.anyOne x, rfl⟩

theorem escaped (c : Char) (h : IsLike cs text) : IsLike ('\\' :: c :: cs) (c :: text) := by
  obtain ⟨pieces, hpieces, rfl⟩ := h
  exact ⟨[c] :: pieces, hpieces.escaped c, rfl⟩

end IsLike

/-- A character that stands for itself wherever it is in a pattern. -/
def IsOrdinary (c : Char) : Prop := c ≠ '%' ∧ c ≠ '_' ∧ c ≠ '\\'

theorem IsLike.ordinary {ds cs text : List Char} (hds : ∀ d ∈ ds, IsOrdinary d)
    (h : IsLike cs text) : IsLike (ds ++ cs) (ds ++ text) := by
  induction ds with
  | nil => exact h
  | cons d ds ih =>
    obtain ⟨⟨hrun, hone, hback⟩, hds⟩ := List.forall_mem_cons.mp hds
    obtain ⟨pieces, hpieces, htext⟩ := ih hds
    exact ⟨[d] :: pieces, .plain d hrun hone hback hpieces, congrArg (d :: ·) htext⟩

/-! ## Lower case -/

open Text

/-- The lower case of an ordinary character has ordinary characters only. -/
theorem IsOrdinary.of_mem_lowerChar {c d : Char} (hc : IsOrdinary c) (hd : d ∈ lowerChar c) :
    IsOrdinary d := by
  obtain ⟨hrun, hone, hback⟩ := hc
  refine ⟨?_, ?_, ?_⟩
  · rintro rfl
    exact hrun (eq_of_mem_lowerChar hd (by decide))
  · rintro rfl
    exact hone (eq_of_mem_lowerChar hd (by decide))
  · rintro rfl
    exact hback (eq_of_mem_lowerChar hd (by decide))

/-- The first character of a lower case form may be one with a meaning in patterns, the others are
ordinary. -/
theorem exists_lowerChar_eq_cons (c : Char) :
    ∃ d ds, lowerChar c = d :: ds ∧ ∀ e ∈ ds, IsOrdinary e := by
  by_cases hdotted : c = 'İ'
  · subst hdotted
    exact ⟨'i', ['\u0307'], rfl, by simp [IsOrdinary]⟩
  · obtain ⟨d, hd⟩ := exists_lowerChar_eq_singleton hdotted
    exact ⟨d, [], hd, by simp⟩

theorem isOrdinary_sigmaIn (before rest : List Char) : IsOrdinary (sigmaIn before rest) := by
  unfold sigmaIn IsOrdinary
  split <;> decide

/-- A character is lowered alike in two places if capital sigmas have one form there. Only its first
character may have a meaning in patterns then, unless it is ordinary. -/
theorem exists_lowerAfter_same {c : Char} {before cs before' text : List Char}
    (h : ∀ d ∈ sigmas before (c :: cs), ∀ e ∈ sigmas before' (c :: text), d = e) :
    ∃ d ds, lowerAfter before (c :: cs) = d :: (ds ++ lowerAfter (c :: before) cs) ∧
      lowerAfter before' (c :: text) = d :: (ds ++ lowerAfter (c :: before') text) ∧
      (∀ e ∈ ds, IsOrdinary e) ∧ (IsOrdinary c → IsOrdinary d) := by
  by_cases hsigma : c = 'Σ'
  · subst hsigma
    have hform := h _ (sigmaIn_mem_sigmas before cs) _ (sigmaIn_mem_sigmas before' text)
    refine ⟨sigmaIn before cs, [], lowerAfter_sigma before cs, ?_, by simp, fun _ => ?_⟩
    · rw [hform]
      exact lowerAfter_sigma before' text
    · exact isOrdinary_sigmaIn before cs
  · obtain ⟨d, ds, hd, hds⟩ := exists_lowerChar_eq_cons c
    refine ⟨d, ds, ?_, ?_, hds, fun hc => hc.of_mem_lowerChar (hd ▸ .head ds)⟩
    · rw [lowerAfter_cons hsigma, hd, List.cons_append]
    · rw [lowerAfter_cons hsigma, hd, List.cons_append]

/-- Lower case takes a pattern behind `before` and a text behind `before'` character by character,
as far as the pattern can tell: the capital sigmas of the pattern take the form that those of the
text take, and the text has no dotted capital I for an underscore to match. -/
structure LowersEvenly (before pattern before' text : List Char) : Prop where
  sigma : ∀ d ∈ sigmas before pattern, ∀ e ∈ sigmas before' text, d = e
  noDotted : .anyOne ∈ patternTokens pattern → 'İ' ∉ text

theorem LowersEvenly.rest (part : List Char) {before cs before' piece text : List Char}
    (h : LowersEvenly before (part ++ cs) before' (piece ++ text))
    (htokens : patternTokens cs ⊆ patternTokens (part ++ cs)) :
    LowersEvenly (part.reverse ++ before) cs (piece.reverse ++ before') text where
  sigma d hd e he := h.sigma d (sigmas_subset_append before part cs hd) e
    (sigmas_subset_append before' piece text he)
  noDotted hone hmem := h.noDotted (htokens hone) (List.mem_append_right piece hmem)

/-- A pattern in lower case stands for the pieces in lower case. -/
theorem LikePieces.isLike_lowerAfter {pattern : List Char} {pieces : List (List Char)}
    (h : LikePieces pattern pieces) {before before' : List Char}
    (heven : LowersEvenly before pattern before' pieces.flatten) :
    IsLike (lowerAfter before pattern) (lowerAfter before' pieces.flatten) := by
  induction h generalizing before before' with
  | nil => exact ⟨[], .nil, rfl⟩
  | @anyRun run cs pieces _ ih =>
    have hrest := ih (heven.rest ['%'] (by simp [patternTokens]))
    obtain ⟨ds, hds⟩ := exists_lowerAfter_append before' run pieces.flatten
    rw [List.flatten_cons, hds, lowerAfter_cons (by decide)]
    exact hrest.anyRun ds
  | @anyOne x cs pieces _ ih =>
    have hrest := ih (heven.rest ['_'] (by simp [patternTokens]))
    have hx : x ≠ 'İ' := by
      rintro rfl
      exact heven.noDotted (.head _) (.head _)
    obtain ⟨d, hd⟩ := exists_lowerAfter_cons hx before' pieces.flatten
    rw [List.flatten_cons, List.singleton_append, hd, lowerAfter_cons (by decide)]
    exact hrest.anyOne d
  | @escaped c cs pieces _ ih =>
    have hrest := ih (heven.rest ['\\', c] (by simp [patternTokens]))
    rw [List.flatten_cons, List.singleton_append] at heven ⊢
    -- The backslash stands before the character in the pattern, and in the pattern only.
    obtain ⟨d, ds, hpattern, htext, hds, -⟩ := exists_lowerAfter_same fun d hd =>
      heven.sigma d (sigmas_subset_cons before '\\' (c :: cs) hd)
    rw [lowerAfter_cons (by decide), hpattern, htext]
    exact (IsLike.ordinary hds hrest).escaped d
  | lastBackslash => exact ⟨[['\\']], .lastBackslash, rfl⟩
  | @plain c cs pieces hrun hone hback _ ih =>
    have hrest := ih (heven.rest [c] (by simp [patternTokens_plain hrun hone hback]))
    rw [List.flatten_cons, List.singleton_append] at heven ⊢
    obtain ⟨d, ds, hpattern, htext, hds, hd⟩ := exists_lowerAfter_same heven.sigma
    have hordinary : ∀ e ∈ d :: ds, IsOrdinary e :=
      List.forall_mem_cons.mpr ⟨hd ⟨hrun, hone, hback⟩, hds⟩
    rw [hpattern, htext]
    exact IsLike.ordinary hordinary hrest

theorem likeText_lower {pattern text : String}
    (heven : LowersEvenly [] pattern.toList [] text.toList) (h : likeText pattern text = true) :
    likeText (lower pattern) (lower text) = true := by
  obtain ⟨pieces, hpieces, htext⟩ := likeChars_iff.mp h
  rw [← htext] at heven
  rw [likeText, likeChars_iff, lower, lower, String.toList_ofList, String.toList_ofList, ← htext]
  exact hpieces.isLike_lowerAfter heven

/-! ## Conditions -/

/-- An account whose text matches a pattern matches it in any letter case too, as long as lower case
takes text and pattern character by character. -/
theorem ilike_of_like {a : Account} {f : Field} {text pattern : String}
    (htext : a.get f = .text text) (heven : LowersEvenly [] pattern.toList [] text.toList)
    (hlike : (Condition.compare f .like (.text pattern)).eval a = some true) :
    (Condition.compare f .ilike (.text pattern)).eval a = some true ∧
      (Operator.ilike.apply f (.single (.text pattern))).matches a = true ∧
      (Operator.notIlike.apply f (.single (.text pattern))).matches a = false := by
  have hmatch : likeText pattern text = true := by
    simpa [Condition.eval, Comparison.eval, htext] using hlike
  have hilike : (Condition.compare f .ilike (.text pattern)).eval a = some true := by
    simp [Condition.eval, Comparison.eval, htext, likeText_lower heven hmatch]
  have hnot : (Condition.not (.compare f .ilike (.text pattern))).eval a = some false := by
    rw [Condition.eval, hilike]
    rfl
  exact ⟨hilike, beq_iff_eq.mpr hilike, beq_eq_false_iff_ne.mpr (by simp [Operator.apply, hnot])⟩

def greekCompany : Account := { (default : Account) with companyName := "ΟΔΟΣ İ_Α" }

theorem ilike_of_like_greekCompany :
    greekCompany.get .companyName = .text "ΟΔΟΣ İ_Α" ∧
    LowersEvenly [] "Ο%ΟΣ \\İ\\_%".toList [] "ΟΔΟΣ İ_Α".toList ∧
    (Condition.compare .companyName .like (.text "Ο%ΟΣ \\İ\\_%")).eval greekCompany =
      some true ∧
    (Condition.compare .companyName .ilike (.text "Ο%ΟΣ \\İ\\_%")).eval greekCompany =
      some true := by
  have htext : greekCompany.get .companyName = .text "ΟΔΟΣ İ_Α" := rfl
  have hpattern : sigmas [] "Ο%ΟΣ \\İ\\_%".toList = ['ς'] := by decide +kernel
  have hcompany : sigmas [] "ΟΔΟΣ İ_Α".toList = ['ς'] := by decide +kernel
  have heven : LowersEvenly [] "Ο%ΟΣ \\İ\\_%".toList [] "ΟΔΟΣ İ_Α".toList :=
    ⟨by rw [hpattern, hcompany]; simp, by decide⟩
  have hlike : (Condition.compare .companyName .like (.text "Ο%ΟΣ \\İ\\_%")).eval greekCompany =
      some true := by decide
  exact ⟨htext, heven, hlike, (ilike_of_like htext heven hlike).1⟩

/-- An underscore does not match the two characters of a lowered dotted capital I, and a capital
sigma in front of a wildcard takes the form for the end of a word. -/
theorem like_without_ilike :
    let dotted : Account := { (default : Account) with companyName := "İ" }
    let sigma : Account := { (default : Account) with companyName := "ΑΣΑ" }
    (Condition.compare .companyName .like (.text "_")).eval dotted = some true ∧
    (Condition.compare .companyName .ilike (.text "_")).eval dotted = some false ∧
    (Condition.compare .companyName .like (.text "ΑΣ%")).eval sigma = some true ∧
    (Condition.compare .companyName .ilike (.text "ΑΣ%")).eval sigma = some false := by
  decide +kernel

end AccountRegistry
