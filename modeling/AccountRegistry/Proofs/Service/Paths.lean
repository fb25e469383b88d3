import AccountRegistry.Proofs.Service.Setup
import AccountRegistry.Proofs.Text.Percent

/-! # Where paths lead

If what the paths start with has no captures, a path of accounts leads to the route that it was made
for, with the identifier at its end.
-/

namespace AccountRegistry

namespace Http

/-- A path without captures. -/
def IsPlain (path : List Char) : Prop := '\x7b' ∉ path ∧ '\x7d' ∉ path

instance (path : List Char) : Decidable (IsPlain path) := inferInstanceAs (Decidable (_ ∧ _))

theorem readSegment?_of_plain {cs : List Char} (h : IsPlain cs) (done : List Char) :
    readSegment? done cs = some (.literal (done.reverse ++ cs)) := by
  induction cs generalizing done with
  | nil => rw [readSegment?, List.append_nil]
  | cons c cs ih =>
    have hopen : c ≠ '\x7b' := fun he => h.1 (he ▸ List.mem_cons_self)
    have hclose : c ≠ '\x7d' := fun he => h.2 (he ▸ List.mem_cons_self)
    have hrest : IsPlain cs :=
      ⟨fun hm => h.1 (List.mem_cons_of_mem c hm), fun hm => h.2 (List.mem_cons_of_mem c hm)⟩
    rw [readSegment?, ih hrest, List.reverse_cons, List.append_assoc, List.singleton_append]
    all_goals simp [hopen, hclose]

theorem segment?_of_plain {cs : List Char} (h : IsPlain cs) {s : Segment}
    (hs : segment? cs = some s) : s = .literal cs := by
  unfold segment? at hs
  split at hs
  · cases hs
  · cases hs
  · rw [readSegment?_of_plain h] at hs
    exact (Option.some.inj hs).symm

theorem eq_map_literal {parts : List (List Char)} (hplain : ∀ part ∈ parts, IsPlain part)
    {p : Pattern} (h : parts.mapM segment? = some p) : p = parts.map .literal := by
  rw [mapM_eq_some_iff] at h
  induction h with
  | nil => rfl
  | cons hs _ ih =>
    rw [List.forall_mem_cons] at hplain
    rw [segment?_of_plain hplain.1 hs, ih hplain.2, List.map_cons]

namespace Pattern

/-- The parts of a plain start stand for themselves in every pattern that begins with it. -/
theorem eq_of_read? {start rest : List Char} (hplain : IsPlain start) {tail p : Pattern}
    (htail : (Text.splitAll '/' rest).mapM segment? = some tail)
    (h : read? (start ++ '/' :: rest) = some p) :
    p = (Text.splitAll '/' start).map .literal ++ tail := by
  obtain ⟨-, hroutable⟩ := exists_read_iff.mp ⟨p, h⟩
  obtain ⟨lead, hlead⟩ := exists_mapM_eq_some_iff.mpr (isRoutable_append_iff.mp hroutable).1
  have hparts : ∀ part ∈ Text.splitAll '/' start, IsPlain part := fun part hpart =>
    ⟨fun hc => hplain.1 (Text.mem_of_mem_splitAll hpart hc),
      fun hc => hplain.2 (Text.mem_of_mem_splitAll hpart hc)⟩
  unfold read? at h
  split at h
  · rw [Text.splitAll_append, List.mapM_append, hlead, htail] at h
    rw [← eq_map_literal hparts hlead]
    exact (Option.some.inj h).symm
  · cases h

theorem matchSegments_append (parts : List (List Char)) (p : Pattern) (rest : List (List Char)) :
    matchSegments (parts.map .literal ++ p) (parts ++ rest) = p.matchSegments rest := by
  induction parts with
  | nil => rfl
  | cons part parts ih =>
    rw [List.map_cons, List.cons_append, List.cons_append, matchSegments, Segment.match?,
      if_pos rfl, ih]
    cases p.matchSegments rest <;> rfl

theorem matchSegments_cons_eq_none {p : Pattern} {rest : List (List Char)}
    (h : p.matchSegments rest = none) (s : Segment) (cs : List Char) :
    matchSegments (s :: p) (cs :: rest) = none := by
  rw [matchSegments, h]
  cases s.match? p.isEmpty cs <;> rfl

/-- Two literals match no path that has another part behind its first parts. -/
theorem matchSegments_pair {a b c : List Char} (hbc : b ≠ c) {parts : List (List Char)}
    (hparts : parts ≠ []) (rest : List (List Char)) :
    matchSegments [.literal a, .literal b] (parts ++ c :: rest) = none := by
  obtain ⟨part, parts, rfl⟩ := List.exists_cons_of_ne_nil hparts
  refine matchSegments_cons_eq_none ?_ _ _
  cases parts with
  | nil =>
    change matchSegments [.literal b] (c :: rest) = none
    rw [matchSegments, Segment.match?, if_neg hbc]
    rfl
  | cons next parts =>
    refine matchSegments_cons_eq_none ?_ _ _
    cases parts <;> rfl

end Pattern

end Http

namespace App

open Http

/-- What leads to accounts behind the start of paths and the word for all of them. -/
def accountTails : Routes :=
  [([], .listing), ([.literal []], .listing),
   ([.literal "account-number".toList, .capture [] "number"], .byNumber),
   ([.literal "company-id".toList, .capture [] "company_id"], .byCompany),
   ([.capture [] "account_id"], .byId)]

/-- The routes for paths that start with some parts. -/
def routesBehind (parts : List (List Char)) : Routes :=
  [([.literal [], .literal "health".toList], .health),
   ([.literal [], .literal "metrics".toList], .metrics)] ++
    accountTails.map fun (tail, kind) =>
      (parts.map .literal ++ .literal "accounts".toList :: tail, kind)

variable {start : String} {routes : Routes}

theorem eq_routesBehind (h : routesOf (paths start) = .ok routes) (hplain : IsPlain start.toList) :
    routes = routesBehind (Text.splitAll '/' start.toList) := by
  have hfixed {path : String} {p : Pattern} (word : List Char)
      (hread : Pattern.read? path.toList = some [.literal [], .literal word])
      (h : Pattern.read? path.toList = some p) : p = [.literal [], .literal word] :=
    Option.some.inj (h.symm.trans hread)
  have hbehind {suffix : String} {p : Pattern} (rest : String) (tail : Pattern)
      (hsuffix : suffix = "/" ++ rest)
      (htail : (Text.splitAll '/' rest.toList).mapM segment? = some tail)
      (h : Pattern.read? (start ++ suffix).toList = some p) :
      p = (Text.splitAll '/' start.toList).map .literal ++ tail := by
    rw [hsuffix, String.toList_append, String.toList_append] at h
    exact Pattern.eq_of_read? hplain htail h
  rw [routesOf_eq_ok_iff, paths] at h
  simp only [String.append_assoc] at h
  obtain ⟨⟨_, _⟩, _, ⟨hhealth, rfl⟩, h₁, rfl⟩ := List.forall₂_cons_left_iff.mp h
  obtain ⟨⟨_, _⟩, _, ⟨hmetrics, rfl⟩, h₂, rfl⟩ := List.forall₂_cons_left_iff.mp h₁
  obtain ⟨⟨_, _⟩, _, ⟨hlisting, rfl⟩, h₃, rfl⟩ := List.forall₂_cons_left_iff.mp h₂
  obtain ⟨⟨_, _⟩, _, ⟨hslash, rfl⟩, h₄, rfl⟩ := List.forall₂_cons_left_iff.mp h₃
  obtain ⟨⟨_, _⟩, _, ⟨hnumber, rfl⟩, h₅, rfl⟩ := List.forall₂_cons_left_iff.mp h₄
  obtain ⟨⟨_, _⟩, _, ⟨hcompany, rfl⟩, h₆, rfl⟩ := List.forall₂_cons_left_iff.mp h₅
  obtain ⟨⟨_, _⟩, _, ⟨hid, rfl⟩, h₇, rfl⟩ := List.forall₂_cons_left_iff.mp h₆
  obtain rfl := List.forall₂_nil_left_iff.mp h₇
  dsimp only at *
  obtain rfl := hfixed "health".toList (by decide) hhealth
  obtain rfl := hfixed "metrics".toList (by decide) hmetrics
  obtain rfl := hbehind "accounts" [.literal "accounts".toList] (by decide) (by decide) hlisting
  obtain rfl := hbehind "accounts/" [.literal "accounts".toList, .literal []] (by decide)
    (by decide) hslash
  obtain rfl := hbehind "accounts/account-number/\x7bnumber\x7d" [.literal "accounts".toList,
    .literal "account-number".toList, .capture [] "number"] (by decide) (by decide) hnumber
  obtain rfl := hbehind "accounts/company-id/\x7bcompany_id\x7d" [.literal "accounts".toList,
    .literal "company-id".toList, .capture [] "company_id"] (by decide) (by decide) hcompany
  obtain rfl := hbehind "accounts/\x7baccount_id\x7d" [.literal "accounts".toList,
    .capture [] "account_id"] (by decide) (by decide) hid
  rfl

/-- What leads somewhere behind the start and the word for all accounts. -/
theorem route?_of_plain (h : routesOf (paths start) = .ok routes) (hplain : IsPlain start.toList)
    {path : List Char} {rest : List (List Char)}
    (hpath : Text.splitAll '/' path = Text.splitAll '/' start.toList ++ "accounts".toList :: rest) :
    route? routes path = accountTails.findSome? fun (tail, kind) =>
      (tail.matchSegments rest).map fun captures => (kind, captures) := by
  have hnone (word : List Char) (hword : word ≠ "accounts".toList) :
      Pattern.match? [.literal [], .literal word] path = none := by
    rw [Pattern.match?, hpath]
    exact Pattern.matchSegments_pair hword (Text.splitAll_ne_nil _) rest
  have hmatch (tail : Pattern) : Pattern.match? ((Text.splitAll '/' start.toList).map .literal ++
      .literal "accounts".toList :: tail) path = tail.matchSegments rest := by
    rw [Pattern.match?, hpath, Pattern.matchSegments_append]
    exact Pattern.matchSegments_append ["accounts".toList] tail rest
  rw [eq_routesBehind h hplain, route?, routesBehind, List.findSome?_append, List.findSome?_map]
  simp only [List.findSome?_cons, hnone "health".toList (by decide),
    hnone "metrics".toList (by decide), Option.map_none, List.findSome?_nil, Option.none_or,
    Function.comp_def, hmatch]

theorem route?_listing (h : routesOf (paths start) = .ok routes) (hplain : IsPlain start.toList) :
    route? routes (start ++ "/accounts").toList = some (.listing, []) := by
  rw [String.toList_append]
  exact route?_of_plain h hplain (Text.splitAll_append start.toList "accounts".toList)

/-- What leads somewhere with an identifier at the end, behind the words that `lead` is made of. -/
theorem route?_identifier (h : routesOf (paths start) = .ok routes) (hplain : IsPlain start.toList)
    {lead : String} (words : String) (hlead : lead = "/" ++ words ++ "/") {rest : List (List Char)}
    (hwords : Text.splitAll '/' words.toList = "accounts".toList :: rest) (u : Uuid) :
    route? routes (start ++ lead ++ u.text).toList = accountTails.findSome? fun (tail, kind) =>
      (tail.matchSegments (rest ++ [u.chars])).map fun captures => (kind, captures) := by
  have hslash : '/' ∉ u.chars := fun h => by
    obtain ⟨d, hd, hc⟩ := Uuid.exists_digit_of_mem_chars h (by decide)
    exact absurd (hc ▸ (Uuid.hexDigit_of_lt d hd).1) (by decide)
  have htext : (start ++ lead ++ u.text).toList =
      start.toList ++ '/' :: (words.toList ++ '/' :: u.chars) := by
    rw [hlead, Uuid.text]
    simp
  refine route?_of_plain h hplain ?_
  rw [htext, Text.splitAll_append, Text.splitAll_append, hwords, Text.splitAll_of_not_mem hslash,
    List.cons_append]

theorem route?_byId (h : routesOf (paths start) = .ok routes) (hplain : IsPlain start.toList)
    (u : Uuid) : route? routes (start ++ "/accounts/" ++ u.text).toList =
      some (.byId, [("account_id", u.chars)]) := by
  have hwords : Text.splitAll '/' "accounts".toList = ["accounts".toList] := by decide
  rw [route?_identifier h hplain "accounts" (by decide) hwords]
  simp [accountTails, List.findSome?_cons, Pattern.matchSegments, Segment.match?, Text.stripStart?,
    Uuid.chars_ne_nil]

theorem route?_byCompany (h : routesOf (paths start) = .ok routes) (hplain : IsPlain start.toList)
    (u : Uuid) : route? routes (start ++ "/accounts/company-id/" ++ u.text).toList =
      some (.byCompany, [("company_id", u.chars)]) := by
  have hwords : Text.splitAll '/' "accounts/company-id".toList =
      ["accounts".toList, "company-id".toList] := by decide
  rw [route?_identifier h hplain "accounts/company-id" (by decide) hwords]
  simp [accountTails, List.findSome?_cons, Pattern.matchSegments, Segment.match?, Text.stripStart?,
    Uuid.chars_ne_nil]

end App

/-- The characters of an identifier stand for themselves in a path. -/
theorem Uuid.decode_chars (u : Uuid) : Text.Percent.decode u.chars = .ok u.chars := by
  have hdigit : ∀ d < 16, d.digitChar.toNat < 0x80 ∧ d.digitChar ≠ '%' := by decide
  refine Text.Percent.decode_of_unescaped fun c hc => ?_
  by_cases hhyphen : c = '-'
  · rw [hhyphen]
    exact ⟨by decide, by decide⟩
  · obtain ⟨d, hd, rfl⟩ := exists_digit_of_mem_chars hc hhyphen
    exact hdigit d hd

end AccountRegistry
