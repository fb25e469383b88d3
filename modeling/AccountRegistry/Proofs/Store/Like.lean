import AccountRegistry.Store.Like
import Mathlib.Data.List.Basic
import Mathlib.Data.List.Forall2

/-! # Matching of patterns

A pattern matches a text that splits into consecutive pieces, one for each token of the pattern.
Matching marks the places of the text that the tokens seen so far can reach, and so decides whether
there are such pieces.
-/

namespace AccountRegistry

/-- The parts of a pattern stand for pieces of a text, one after the other. A percent sign stands
for any run of characters and an underscore for one character. The character behind a backslash
stands for itself, and so does every other one, a backslash at the end included. -/
inductive LikePieces : List Char → List (List Char) → Prop
  | nil : LikePieces [] []
  | anyRun (run : List Char) {cs pieces} :
    LikePieces cs pieces → LikePieces ('%' :: cs) (run :: pieces)
  | anyOne (x : Char) {cs pieces} : LikePieces cs pieces → LikePieces ('_' :: cs) ([x] :: pieces)
  | escaped (c : Char) {cs pieces} :
    LikePieces cs pieces → LikePieces ('\\' :: c :: cs) ([c] :: pieces)
  | lastBackslash : LikePieces ['\\'] [['\\']]
  | plain (c : Char) {cs pieces} : c ≠ '%' → c ≠ '_' → c ≠ '\\' →
    LikePieces cs pieces → LikePieces (c :: cs) ([c] :: pieces)

/-- A pattern stands for some pieces that make up the text. -/
def IsLike (pattern text : List Char) : Prop :=
  ∃ pieces, LikePieces pattern pieces ∧ pieces.flatten = text

/-! ## Tokens -/

/-- The pieces that one token stands for. -/
def PatternToken.Matches : PatternToken → List Char → Prop
  | .anyRun, _ => True
  | .anyOne, piece => ∃ x, piece = [x]
  | .literal c, piece => piece = [c]

theorem patternTokens_plain {c : Char} (hrun : c ≠ '%') (hone : c ≠ '_') (hback : c ≠ '\\')
    (cs : List Char) : patternTokens (c :: cs) = .literal c :: patternTokens cs := by
  rw [patternTokens.eq_def]
  split <;> simp_all

theorem forall₂_of_likePieces {pattern : List Char} {pieces : List (List Char)}
    (h : LikePieces pattern pieces) :
    List.Forall₂ PatternToken.Matches (patternTokens pattern) pieces := by
  induction h with
  | nil => exact .nil
  | anyRun run _ ih => exact .cons trivial ih
  | anyOne x _ ih => exact .cons ⟨x, rfl⟩ ih
  | escaped c _ ih => exact .cons rfl ih
  | lastBackslash => exact .cons rfl .nil
  | plain c hrun hone hback _ ih =>
    rw [patternTokens_plain hrun hone hback]
    exact .cons rfl ih

theorem likePieces_of_forall₂ (pattern : List Char) {pieces : List (List Char)}
    (h : List.Forall₂ PatternToken.Matches (patternTokens pattern) pieces) :
    LikePieces pattern pieces := by
  fun_induction patternTokens pattern generalizing pieces with
  | case1 =>
    cases h
    exact .nil
  | case2 cs ih =>
    obtain ⟨run, rest, -, hrest, rfl⟩ := List.forall₂_cons_left_iff.mp h
    exact .anyRun run (ih hrest)
  | case3 cs ih =>
    obtain ⟨_, rest, ⟨x, rfl⟩, hrest, rfl⟩ := List.forall₂_cons_left_iff.mp h
    exact .anyOne x (ih hrest)
  | case4 =>
    obtain ⟨_, rest, rfl, hrest, rfl⟩ := List.forall₂_cons_left_iff.mp h
    cases hrest
    exact .lastBackslash
  | case5 c cs ih =>
    obtain ⟨_, rest, rfl, hrest, rfl⟩ := List.forall₂_cons_left_iff.mp h
    exact .escaped c (ih hrest)
  | case6 c cs hrun hone hback ih =>
    obtain ⟨_, rest, rfl, hrest, rfl⟩ := List.forall₂_cons_left_iff.mp h
    exact .plain c hrun hone hback (ih hrest)

/-- Pieces stand for a pattern exactly if each matches the token in its place. -/
theorem likePieces_iff {pattern : List Char} {pieces : List (List Char)} :
    LikePieces pattern pieces ↔
      List.Forall₂ PatternToken.Matches (patternTokens pattern) pieces :=
  ⟨forall₂_of_likePieces, likePieces_of_forall₂ pattern⟩

/-! ## Places -/

/-- A row of marks, one for each place of a text, is set where the text before the place has a
property. -/
structure MarksPlaces (text : List Char) (reached : List Bool) (P : List Char → Prop) : Prop where
  length_eq : reached.length = text.length + 1
  marked_iff : ∀ before after, before ++ after = text →
    (reached[before.length]? = some true ↔ P before)

theorem length_spread (seen : Bool) (reached : List Bool) :
    (spread seen reached).length = reached.length := by
  induction reached generalizing seen with
  | nil => rfl
  | cons b reached ih => rw [spread, List.length_cons, ih, List.length_cons]

theorem getElem?_spread {reached : List Bool} (seen : Bool) {n : Nat} (h : n < reached.length) :
    (spread seen reached)[n]? = some true ↔
      seen = true ∨ ∃ i ≤ n, reached[i]? = some true := by
  induction reached generalizing seen n with
  | nil => cases h
  | cons b reached ih =>
    rw [spread]
    cases n with
    | zero => cases seen <;> simp
    | succ n =>
      have hn : n < reached.length := Nat.lt_of_succ_lt_succ h
      rw [List.getElem?_cons_succ, ih _ hn, Bool.or_eq_true, or_assoc]
      refine or_congr_right ⟨?_, ?_⟩
      · rintro (rfl | ⟨i, hi, hmark⟩)
        · exact ⟨0, Nat.zero_le _, rfl⟩
        · exact ⟨i + 1, Nat.succ_le_succ hi, hmark⟩
      · rintro ⟨_ | i, hi, hmark⟩
        · exact .inl (Option.some.inj hmark)
        · exact .inr ⟨i, Nat.le_of_succ_le_succ hi, hmark⟩

namespace MarksPlaces

variable {text : List Char} {reached : List Bool} {P : List Char → Prop}

/-- Before anything is matched, only the start of the text is marked. -/
theorem start (text : List Char) :
    MarksPlaces text (true :: text.map fun _ => false) (· = []) := by
  refine ⟨by simp, fun before after _ => ?_⟩
  cases before with
  | nil => simp
  | cons x before => simp [List.getElem?_replicate]

theorem congr {Q : List Char → Prop} (h : MarksPlaces text reached P) (hPQ : ∀ cs, P cs ↔ Q cs) :
    MarksPlaces text reached Q :=
  ⟨h.length_eq, fun before after htext => (h.marked_iff before after htext).trans (hPQ before)⟩

theorem spread (h : MarksPlaces text reached P) :
    MarksPlaces text (spread false reached)
      fun before => ∃ earlier run, earlier ++ run = before ∧ P earlier := by
  refine ⟨(length_spread _ _).trans h.length_eq, fun before after htext => ?_⟩
  have hlt : before.length < reached.length := by
    rw [h.length_eq, ← htext, List.length_append]
    omega
  rw [getElem?_spread false hlt, or_iff_right Bool.false_ne_true]
  constructor
  · rintro ⟨i, hi, hmark⟩
    refine ⟨before.take i, before.drop i, List.take_append_drop i before, ?_⟩
    refine (h.marked_iff _ (before.drop i ++ after) ?_).mp ?_
    · rw [← List.append_assoc, List.take_append_drop, htext]
    · rwa [List.length_take_of_le hi]
  · rintro ⟨earlier, run, rfl, hearlier⟩
    refine ⟨earlier.length, by simp, ?_⟩
    exact (h.marked_iff earlier (run ++ after) (by rw [← htext, List.append_assoc])).mpr hearlier

/-- A token for one character moves each mark on by one place where it matches the character. -/
theorem shift (h : MarksPlaces text reached P) {keep : Bool → Char → Bool} {Q : Char → Prop}
    (hkeep : ∀ b x, keep b x = true ↔ b = true ∧ Q x) :
    MarksPlaces text (false :: List.zipWith keep reached text)
      fun before => ∃ earlier x, earlier ++ [x] = before ∧ P earlier ∧ Q x := by
  constructor
  · rw [List.length_cons, List.length_zipWith, h.length_eq, Nat.min_eq_right (Nat.le_succ _)]
  · intro before after htext
    rcases List.eq_nil_or_concat' before with rfl | ⟨earlier, x, rfl⟩
    · simp
    · rw [List.append_assoc] at htext
      have hx : text[earlier.length]? = some x := by
        rw [← htext, List.getElem?_append_right (Nat.le_refl _), Nat.sub_self]
        rfl
      have hmark := h.marked_iff earlier _ htext
      rw [List.length_append, List.length_singleton, List.getElem?_cons_succ,
        List.getElem?_zipWith_eq_some]
      constructor
      · rintro ⟨b, y, hb, hy, hset⟩
        obtain rfl : y = x := Option.some.inj (hy.symm.trans hx)
        obtain ⟨rfl, hQ⟩ := (hkeep b y).mp hset
        exact ⟨earlier, y, rfl, hmark.mp hb, hQ⟩
      · rintro ⟨e, y, he, hP, hQ⟩
        obtain ⟨rfl, hxy⟩ := List.append_inj' he rfl
        cases hxy
        exact ⟨true, x, hmark.mpr hP, hx, (hkeep true x).mpr ⟨rfl, hQ⟩⟩

/-- One token more extends each beginning by a piece that it matches. -/
theorem step (h : MarksPlaces text reached P) (t : PatternToken) :
    MarksPlaces text (advance text reached t)
      fun before => ∃ earlier piece, earlier ++ piece = before ∧ P earlier ∧ t.Matches piece := by
  cases t with
  | anyRun =>
    refine h.spread.congr fun before => ?_
    simp only [PatternToken.Matches, and_true]
  | anyOne =>
    have hkeep (b : Bool) (x : Char) : b = true ↔ b = true ∧ True := by simp
    refine (h.shift hkeep).congr fun before => ?_
    constructor
    · rintro ⟨earlier, x, rfl, hP, -⟩
      exact ⟨earlier, [x], rfl, hP, x, rfl⟩
    · rintro ⟨earlier, _, rfl, hP, x, rfl⟩
      exact ⟨earlier, x, rfl, hP, trivial⟩
  | literal c =>
    have hkeep (b : Bool) (x : Char) : (b && x == c) = true ↔ b = true ∧ x = c := by simp
    refine (h.shift hkeep).congr fun before => ?_
    constructor
    · rintro ⟨earlier, x, rfl, hP, rfl⟩
      exact ⟨earlier, [x], rfl, hP, rfl⟩
    · rintro ⟨earlier, _, rfl, hP, rfl⟩
      exact ⟨earlier, c, rfl, hP, rfl⟩

/-- Some tokens extend each beginning by as many pieces that they match. -/
theorem run (h : MarksPlaces text reached P) (tokens : List PatternToken) :
    MarksPlaces text (tokens.foldl (advance text) reached) fun before =>
      ∃ earlier pieces, earlier ++ pieces.flatten = before ∧ P earlier ∧
        List.Forall₂ PatternToken.Matches tokens pieces := by
  induction tokens generalizing reached P with
  | nil =>
    refine h.congr fun before => ?_
    simp
  | cons t tokens ih =>
    refine (ih (h.step t)).congr fun before => ?_
    simp only [List.forall₂_cons_left_iff]
    constructor
    · rintro ⟨_, pieces, rfl, ⟨earlier, piece, rfl, hP, hpiece⟩, hpieces⟩
      exact ⟨earlier, piece :: pieces, by simp, hP, piece, pieces, hpiece, hpieces, rfl⟩
    · rintro ⟨earlier, _, rfl, hP, piece, pieces, hpiece, hpieces, rfl⟩
      exact ⟨earlier ++ piece, pieces, by simp, ⟨earlier, piece, rfl, hP, hpiece⟩, hpieces⟩

end MarksPlaces

theorem likeChars_iff {pattern text : List Char} :
    likeChars pattern text = true ↔ IsLike pattern text := by
  have h := (MarksPlaces.start text).run (patternTokens pattern)
  have hend := h.marked_iff text [] (List.append_nil text)
  have hset (o : Option Bool) : o.getD false = true ↔ o = some true := by
    cases o <;> simp
  rw [likeChars, List.getLast?_eq_getElem?, h.length_eq, Nat.add_sub_cancel, hset, hend, IsLike]
  constructor
  · rintro ⟨_, pieces, htext, rfl, hpieces⟩
    exact ⟨pieces, likePieces_iff.mpr hpieces, htext⟩
  · rintro ⟨pieces, hpieces, htext⟩
    exact ⟨[], pieces, htext, rfl, likePieces_iff.mp hpieces⟩

/-- A pattern matches a text exactly if the text splits into pieces that the parts of the pattern
stand for. -/
theorem likeText_iff_isLike (pattern text : String) :
    likeText pattern text = true ↔ IsLike pattern.toList text.toList :=
  likeChars_iff

example : likeText "%%a%%\\_" "banana_" = true := by decide

example : likeText "100\\%" "1000" = false := by decide

end AccountRegistry
