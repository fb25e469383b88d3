import AccountRegistry.Query.Statement
import Mathlib.Data.List.Basic

/-! # Tokens of SQL

A text is scanned from left to right. Words and operators are longest runs of their characters, and
a text in quotation marks is one token, so texts may be scanned apart wherever a blank, a
parenthesis or a comma stands.
-/

namespace AccountRegistry.Sql

inductive Token
  | word (s : String)
  | number (n : Nat)
  /-- A numbered parameter. -/
  | parameter (n : Nat)
  | quoted (name : String)
  | sign (s : String)
  | opening
  | closing
  /-- A character that no token has. -/
  | stray (c : Char)
  deriving DecidableEq, Repr

def isWordChar (c : Char) : Bool := c.isAlphanum || c == '_' || c == '$'

def isOperatorChar (c : Char) : Bool := c ∈ ['=', '<', '>', '!', ':']

/-- The number that some digits write. -/
def natural? (cs : List Char) : Option Nat :=
  if cs ≠ [] ∧ cs.all Char.isDigit then some (Nat.ofDigitChars 10 cs 0) else none

def Token.ofWord (cs : List Char) : Token :=
  if cs.head? = some '$' then (natural? cs.tail).elim (.stray '$') .parameter
  else (natural? cs).elim (.word (.ofList cs)) .number

/-- The part of a token that has been scanned. -/
inductive Pending
  | nothing
  | word (cs : List Char)
  | operator (cs : List Char)
  | quoted (cs : List Char)

/-- The tokens of a pending part when no more of it comes; a quotation mark must be closed. -/
def Pending.flush : Pending → Option (List Token)
  | .nothing => some []
  | .word cs => some [.ofWord cs]
  | .operator cs => some [.sign (.ofList cs)]
  | .quoted _ => none

/-- Completed tokens, and what is pending after them. -/
abbrev Scanned := List Token × Pending

def Scanned.behind (ts : List Token) (r : Scanned) : Scanned := (ts ++ r.1, r.2)

def start (c : Char) : Scanned :=
  if isWordChar c then ([], .word [c])
  else if isOperatorChar c then ([], .operator [c])
  else if c = '"' then ([], .quoted [])
  else if c = ' ' then ([], .nothing)
  else if c = '(' then ([.opening], .nothing)
  else if c = ')' then ([.closing], .nothing)
  else if c ∈ ['.', ',', '*'] then ([.sign (.singleton c)], .nothing)
  else ([.stray c], .nothing)

def Pending.feed : Pending → Char → Scanned
  | .nothing, c => start c
  | .word cs, c =>
    if isWordChar c then ([], .word (cs ++ [c])) else (start c).behind [.ofWord cs]
  | .operator cs, c =>
    if isOperatorChar c then ([], .operator (cs ++ [c])) else (start c).behind [.sign (.ofList cs)]
  | .quoted cs, c =>
    if c = '"' then ([.quoted (.ofList cs)], .nothing) else ([], .quoted (cs ++ [c]))

def scan : Pending → List Char → Scanned
  | p, [] => ([], p)
  | p, c :: cs => (scan (p.feed c).2 cs).behind (p.feed c).1

/-- The tokens of a text. -/
def tokens? (s : String) : Option (List Token) :=
  let r := scan .nothing s.toList
  r.2.flush.map (r.1 ++ ·)

/-! ## Scanning in parts -/

theorem scan_append (p : Pending) (cs ds : List Char) :
    scan p (cs ++ ds) = (scan (scan p cs).2 ds).behind (scan p cs).1 := by
  induction cs generalizing p with
  | nil => rfl
  | cons c cs ih =>
    rw [List.cons_append, scan, ih]
    simp only [scan, Scanned.behind, List.append_assoc]

theorem tokens?_eq_some_iff {s : String} {ts : List Token} :
    tokens? s = some ts ↔
      ∃ us, (scan .nothing s.toList).2.flush = some us ∧ (scan .nothing s.toList).1 ++ us = ts := by
  rw [tokens?, Option.map_eq_some_iff]

/-- A character that is part of no longer token. -/
def isFree (c : Char) : Bool := !isWordChar c && !isOperatorChar c

def startsFree (s : String) : Bool := s.toList.head?.all isFree

def endsFree (s : String) : Bool := s.toList.getLast?.all isFree

/-- A free character completes what is pending. -/
theorem feed_of_isFree {p : Pending} {ts : List Token} {c : Char} (hp : p.flush = some ts)
    (hc : isFree c = true) : p.feed c = (start c).behind ts := by
  rw [isFree, Bool.and_eq_true, Bool.not_eq_true', Bool.not_eq_true'] at hc
  cases p with
  | nothing =>
    cases hp
    rfl
  | word cs =>
    cases hp
    rw [Pending.feed, if_neg (by simp [hc.1])]
  | operator cs =>
    cases hp
    rw [Pending.feed, if_neg (by simp [hc.2])]
  | quoted cs => cases hp

/-- A free character leaves nothing pending, except behind an open quotation mark. -/
theorem pending_of_isFree {p : Pending} {ts : List Token} {c : Char} (hc : isFree c = true)
    (hf : (p.feed c).2.flush = some ts) : (p.feed c).2 = .nothing := by
  have hstart : (start c).2.flush = none ∨ (start c).2 = .nothing := by
    rw [isFree, Bool.and_eq_true, Bool.not_eq_true', Bool.not_eq_true'] at hc
    rw [start, if_neg (by simp [hc.1]), if_neg (by simp [hc.2])]
    by_cases hq : c = '"'
    · exact .inl (by rw [if_pos hq]; rfl)
    · rw [if_neg hq]
      split_ifs <;> exact .inr rfl
  cases p with
  | quoted cs =>
    rw [Pending.feed] at hf ⊢
    split_ifs at hf ⊢
    · rfl
    · cases hf
  | nothing => exact hstart.resolve_left fun h => by cases h.symm.trans hf
  | word cs =>
    rw [feed_of_isFree (p := .word cs) rfl hc] at hf ⊢
    exact hstart.resolve_left fun h => by cases h.symm.trans hf
  | operator cs =>
    rw [feed_of_isFree (p := .operator cs) rfl hc] at hf ⊢
    exact hstart.resolve_left fun h => by cases h.symm.trans hf

/-- The tokens of a literal, which is known by its characters without decoding it. -/
theorem tokens?_ofList (cs : List Char) :
    tokens? (.ofList cs) = (scan .nothing cs).2.flush.map ((scan .nothing cs).1 ++ ·) := by
  rw [tokens?, String.toList_ofList]

theorem endsFree_ofList (cs : List Char) : endsFree (.ofList cs) = cs.getLast?.all isFree := by
  rw [endsFree, String.toList_ofList]

/-- Texts are scanned apart if one ends or the other starts with a free character. -/
theorem tokens?_append {s t : String} {ts us : List Token} (hs : tokens? s = some ts)
    (ht : tokens? t = some us) (hfree : endsFree s = true ∨ startsFree t = true) :
    tokens? (s ++ t) = some (ts ++ us) := by
  obtain ⟨vs, hvs, rfl⟩ := tokens?_eq_some_iff.mp hs
  obtain ⟨ws, hws, rfl⟩ := tokens?_eq_some_iff.mp ht
  rw [tokens?_eq_some_iff, String.toList_append, scan_append]
  have hnothing : (scan .nothing s.toList).2 = .nothing ∨ startsFree t = true := by
    refine hfree.imp_left fun h => ?_
    rw [endsFree] at h
    rcases List.eq_nil_or_concat s.toList with hnil | ⟨cs, c, hcs⟩
    · rw [hnil]
      rfl
    · rw [hcs, List.concat_eq_append] at h hvs ⊢
      rw [List.getLast?_concat, Option.all_some] at h
      rw [scan_append] at hvs ⊢
      exact pending_of_isFree h hvs
  rcases hnothing with hp | ht
  · rw [hp] at hvs ⊢
    cases hvs
    exact ⟨ws, hws, by simp only [Scanned.behind, List.append_assoc, List.nil_append]⟩
  · cases hcs : t.toList with
    | nil =>
      rw [hcs] at hws
      cases hws
      exact ⟨vs, hvs, by simp only [scan, Scanned.behind, List.append_nil]⟩
    | cons c cs =>
      rw [startsFree, hcs, List.head?_cons, Option.all_some] at ht
      rw [hcs] at hws
      refine ⟨ws, ?_, ?_⟩
      · rw [scan, feed_of_isFree hvs ht]
        exact hws
      · rw [scan, feed_of_isFree hvs ht, scan]
        simp only [Scanned.behind, List.append_assoc, Pending.feed]

theorem endsFree_append {s t : String} (hne : t ≠ "") (ht : endsFree t = true) :
    endsFree (s ++ t) = true := by
  have hlast : (s ++ t).toList.getLast? = t.toList.getLast? := by
    rw [String.toList_append]
    exact List.getLast?_append_of_ne_nil _ (mt String.toList_eq_nil_iff.mp hne)
  rw [endsFree, hlast]
  exact ht

theorem startsFree_append {s t : String} (hne : s ≠ "") (hs : startsFree s = true) :
    startsFree (s ++ t) = true := by
  have hfirst : (s ++ t).toList.head? = s.toList.head? := by
    rw [String.toList_append]
    exact List.head?_append_of_ne_nil _ (mt String.toList_eq_nil_iff.mp hne)
  rw [startsFree, hfirst]
  exact hs

theorem startsFree_append_of_startsFree {s t : String} (hs : startsFree s = true)
    (ht : startsFree t = true) : startsFree (s ++ t) = true := by
  by_cases hne : s = ""
  · rw [hne, String.empty_append]
    exact ht
  · exact startsFree_append hne hs

/-- A text between two others, from which free characters separate it. -/
theorem tokens?_between {s m t : String} {ts ms us : List Token} (hs : tokens? s = some ts)
    (hm : tokens? m = some ms) (ht : tokens? t = some us) (hne : m ≠ "")
    (hstart : startsFree m = true) (hend : endsFree m = true) :
    tokens? (s ++ m ++ t) = some (ts ++ ms ++ us) :=
  tokens?_append (tokens?_append hs hm (.inr hstart)) ht (.inl (endsFree_append hne hend))

theorem tokens?_parentheses {s : String} {ts : List Token} (hs : tokens? s = some ts) :
    tokens? ("(" ++ s ++ ")") = some ([.opening] ++ ts ++ [.closing]) :=
  tokens?_append (tokens?_append (by decide) hs (.inl (by decide))) (by decide) (.inr (by decide))

/-! ## Single tokens -/

theorem scan_word {cs : List Char} (h : ∀ c ∈ cs, isWordChar c = true) (ds : List Char) :
    scan (.word ds) cs = ([], .word (ds ++ cs)) := by
  induction cs generalizing ds with
  | nil => rw [scan, List.append_nil]
  | cons c cs ih =>
    obtain ⟨hc, hcs⟩ := List.forall_mem_cons.mp h
    rw [scan, Pending.feed, if_pos hc, ih hcs, List.append_assoc]
    rfl

theorem scan_quoted {cs : List Char} (h : '"' ∉ cs) (ds : List Char) :
    scan (.quoted ds) cs = ([], .quoted (ds ++ cs)) := by
  induction cs generalizing ds with
  | nil => rw [scan, List.append_nil]
  | cons c cs ih =>
    obtain ⟨hc, hcs⟩ := not_or.mp (mt List.mem_cons.mpr h)
    rw [scan, Pending.feed, if_neg (Ne.symm hc), ih hcs, List.append_assoc]
    rfl

theorem tokens?_word {s : String} {c : Char} {cs : List Char} (hs : s.toList = c :: cs)
    (h : ∀ d ∈ c :: cs, isWordChar d = true) : tokens? s = some [.ofWord (c :: cs)] := by
  obtain ⟨hc, hcs⟩ := List.forall_mem_cons.mp h
  rw [tokens?_eq_some_iff, hs, scan, Pending.feed, start, if_pos hc, scan_word hcs]
  exact ⟨_, rfl, rfl⟩

theorem isWordChar_of_isDigit {c : Char} (h : c.isDigit = true) : isWordChar c = true := by
  simp [isWordChar, Char.isAlphanum, h]

theorem isDigit_of_mem_repr {n : Nat} {c : Char} (h : c ∈ n.repr.toList) : c.isDigit = true := by
  rw [Nat.toList_repr] at h
  exact Nat.isDigit_of_mem_toDigits (by decide) (by decide) h

theorem natural?_repr (n : Nat) : natural? n.repr.toList = some n := by
  have hall : n.repr.toList.all Char.isDigit = true :=
    List.all_eq_true.mpr fun _ => isDigit_of_mem_repr
  rw [natural?, if_pos ⟨by rw [Nat.toList_repr]; exact Nat.toDigits_ne_nil, hall⟩, Nat.toList_repr,
    Nat.ofDigitChars_ten_toDigits]

theorem tokens?_repr (n : Nat) : tokens? n.repr = some [.number n] := by
  cases hcs : n.repr.toList with
  | nil =>
    rw [Nat.toList_repr] at hcs
    exact absurd hcs Nat.toDigits_ne_nil
  | cons c cs =>
    have hdigit : ∀ d ∈ c :: cs, d.isDigit = true := fun d hd => isDigit_of_mem_repr (hcs ▸ hd)
    rw [tokens?_word hcs fun d hd => isWordChar_of_isDigit (hdigit d hd), Token.ofWord, ← hcs,
      natural?_repr, if_neg]
    · rfl
    · rw [hcs, List.head?_cons, Option.some.injEq]
      rintro rfl
      exact absurd (hdigit '$' (.head _)) (by decide)

theorem tokens?_placeholder (n : Nat) : tokens? (placeholder n) = some [.parameter n] := by
  have htext : (placeholder n).toList = '$' :: n.repr.toList := by
    rw [placeholder]
    exact String.toList_append
  rw [tokens?_word htext, Token.ofWord, if_pos List.head?_cons, List.tail_cons, natural?_repr]
  · rfl
  · exact List.forall_mem_cons.mpr
      ⟨by decide, fun c hc => isWordChar_of_isDigit (isDigit_of_mem_repr hc)⟩

theorem tokens?_quoteIdentifier {name t : String} (h : quoteIdentifier name = .ok t) :
    tokens? t = some [.quoted name] := by
  rw [quoteIdentifier] at h
  split_ifs at h with hempty hall
  cases h
  have hquote : '"' ∉ name.toList := fun hmem =>
    absurd (List.all_eq_true.mp hall '"' hmem) (by decide)
  have htext : ("\"" ++ name ++ "\"").toList = '"' :: (name.toList ++ ['"']) := by
    rw [String.toList_append, String.toList_append]
    rfl
  have hscan : scan .nothing ('"' :: (name.toList ++ ['"'])) = ([.quoted name], .nothing) := by
    rw [scan, scan_append, show Pending.feed .nothing '"' = ([], .quoted []) from rfl,
      scan_quoted hquote, List.nil_append]
    simp [scan, Pending.feed, Scanned.behind]
  rw [tokens?_eq_some_iff, htext, hscan]
  exact ⟨[], rfl, rfl⟩

end AccountRegistry.Sql
