import AccountRegistry.Text.Split
import Mathlib.Data.List.Basic

/-! # Parts of split texts

Splitting a text at all separators finds the parts that were put together with it, and every other
character of the text in one of its parts. Single separators between parts are no double one.
Splitting once finds the first or the last occurrence, if there is one.
-/

namespace AccountRegistry.Text

section All

variable {α : Type} [DecidableEq α] {sep : α}

theorem splitAll_ne_nil (cs : List α) : splitAll sep cs ≠ [] := by
  cases cs with
  | nil => exact nofun
  | cons c cs =>
    unfold splitAll
    split
    · exact nofun
    · split <;> exact nofun

/-- A text is split at a separator, whatever stands before and after it. -/
theorem splitAll_append (before after : List α) :
    splitAll sep (before ++ sep :: after) = splitAll sep before ++ splitAll sep after := by
  induction before with
  | nil => simp [splitAll]
  | cons c before ih =>
    rw [List.cons_append, splitAll, splitAll, ih]
    by_cases hc : c = sep
    · rw [if_pos hc, if_pos hc, List.cons_append]
    · rw [if_neg hc, if_neg hc]
      cases hbefore : splitAll sep before with
      | nil => exact absurd hbefore (splitAll_ne_nil before)
      | cons first others => rfl

theorem splitAll_of_not_mem {cs : List α} (h : sep ∉ cs) : splitAll sep cs = [cs] := by
  induction cs with
  | nil => rfl
  | cons c cs ih =>
    rw [List.mem_cons, not_or] at h
    rw [splitAll, if_neg fun he => h.1 he.symm, ih h.2]

/-- Parts without separators are found again. -/
theorem splitAll_intercalate {parts : List (List α)} (hne : parts ≠ [])
    (h : ∀ part ∈ parts, sep ∉ part) : splitAll sep ([sep].intercalate parts) = parts := by
  induction parts with
  | nil => exact absurd rfl hne
  | cons part parts ih =>
    rw [List.forall_mem_cons] at h
    cases parts with
    | nil => rw [List.intercalate_singleton, splitAll_of_not_mem h.1]
    | cons next parts =>
      rw [List.intercalate_cons_cons, List.append_assoc, List.singleton_append, splitAll_append,
        splitAll_of_not_mem h.1, ih (List.cons_ne_nil next parts) h.2, List.singleton_append]

theorem exists_mem_splitAll {cs : List α} {c : α} (hc : c ∈ cs) (hsep : c ≠ sep) :
    ∃ part ∈ splitAll sep cs, c ∈ part := by
  induction cs with
  | nil => cases hc
  | cons d cs ih =>
    rw [splitAll]
    split
    · next hd =>
      have hmem := (List.mem_cons.mp hc).resolve_left fun he => hsep (he.trans hd)
      obtain ⟨part, hpart, hin⟩ := ih hmem
      exact ⟨part, List.mem_cons_of_mem _ hpart, hin⟩
    · cases hsplit : splitAll sep cs with
      | nil => exact absurd hsplit (splitAll_ne_nil cs)
      | cons first others =>
        rcases List.mem_cons.mp hc with rfl | hmem
        · exact ⟨c :: first, List.mem_cons_self, List.mem_cons_self⟩
        · obtain ⟨part, hpart, hin⟩ := ih hmem
          rw [hsplit] at hpart
          rcases List.mem_cons.mp hpart with rfl | hpart
          · exact ⟨d :: part, List.mem_cons_self, List.mem_cons_of_mem d hin⟩
          · exact ⟨part, List.mem_cons_of_mem _ hpart, hin⟩

theorem mem_of_mem_splitAll {cs part : List α} {c : α} (hpart : part ∈ splitAll sep cs)
    (hc : c ∈ part) : c ∈ cs := by
  induction cs generalizing part with
  | nil => exact absurd hc (List.mem_singleton.mp hpart ▸ List.not_mem_nil)
  | cons d cs ih =>
    rw [splitAll] at hpart
    split at hpart
    · rcases List.mem_cons.mp hpart with rfl | hpart
      · cases hc
      · exact List.mem_cons_of_mem d (ih hpart hc)
    · cases hsplit : splitAll sep cs with
      | nil => exact absurd hsplit (splitAll_ne_nil cs)
      | cons first others =>
        rw [hsplit] at hpart ih
        rcases List.mem_cons.mp hpart with rfl | hpart
        · exact (List.mem_cons.mp hc).elim (· ▸ List.mem_cons_self) fun hc =>
            List.mem_cons_of_mem d (ih List.mem_cons_self hc)
        · exact List.mem_cons_of_mem d (ih (List.mem_cons_of_mem first hpart) hc)

end All

/-- A part without the first character of a separator stands before all occurrences of it. -/
theorem splitFirst?_append_of_not_mem {c : Char} {sep part : List Char} (h : c ∉ part)
    (rest : List Char) : splitFirst? (c :: sep) (part ++ rest) =
      (splitFirst? (c :: sep) rest).map fun p => (part ++ p.1, p.2) := by
  induction part with
  | nil => exact Option.map_id'.symm
  | cons d part ih =>
    rw [List.mem_cons, not_or] at h
    rw [List.cons_append, splitFirst?, stripStart?, if_neg h.1]
    dsimp only
    rw [ih h.2, Option.map_map]
    rfl

theorem splitFirst?_intercalate {c : Char} {parts : List (List Char)}
    (hne : ∀ part ∈ parts, part ≠ []) (h : ∀ part ∈ parts, c ∉ part) (rest : List Char) :
    splitFirst? [c, c] ([c].intercalate parts ++ rest) =
      (splitFirst? [c, c] rest).map fun p => ([c].intercalate parts ++ p.1, p.2) := by
  induction parts with
  | nil => exact Option.map_id'.symm
  | cons part parts ih =>
    rw [List.forall_mem_cons] at hne h
    cases parts with
    | nil =>
      rw [List.intercalate_singleton]
      exact splitFirst?_append_of_not_mem h.1 rest
    | cons next parts =>
      -- The separator is followed by the first character of the next part, which is another one.
      obtain ⟨d, next, rfl⟩ := List.exists_cons_of_ne_nil (hne.2 next List.mem_cons_self)
      have hd : c ≠ d := fun he => h.2 _ List.mem_cons_self (he ▸ List.mem_cons_self)
      have hsingle (cs : List Char) : splitFirst? [c, c] (c :: d :: cs) =
          (splitFirst? [c, c] (d :: cs)).map fun p => (c :: p.1, p.2) := by
        rw [splitFirst?, stripStart?, if_pos rfl, stripStart?, if_neg hd]
      obtain ⟨cs, hcs⟩ : ∃ cs, [c].intercalate ((d :: next) :: parts) ++ rest = d :: cs := by
        cases parts with
        | nil => exact ⟨_, rfl⟩
        | cons => exact ⟨_, rfl⟩
      rw [List.intercalate_cons_cons, List.append_assoc, List.append_assoc,
        splitFirst?_append_of_not_mem h.1, List.singleton_append, hcs, hsingle, ← hcs,
        ih hne.2 h.2, Option.map_map, Option.map_map]
      congr 1
      funext p
      simp

/-! ## First and last occurrences -/

theorem stripStart?_append (start rest : List Char) :
    stripStart? start (start ++ rest) = some rest := by
  induction start with
  | nil => rfl
  | cons s start ih => rw [List.cons_append, stripStart?, if_pos rfl, ih]

/-- Two parts of a text with the first occurrence of a separator between them. -/
structure IsFirstSplit (sep cs before after : List Char) : Prop where
  whole : cs = before ++ sep ++ after
  first : ∀ b a, cs = b ++ sep ++ a → before.length ≤ b.length

theorem length_le_of_splitFirst? {sep cs before after : List Char}
    (h : splitFirst? sep cs = some (before, after)) {b a : List Char} (hcs : cs = b ++ sep ++ a) :
    before.length ≤ b.length := by
  induction cs generalizing before b with
  | nil =>
    obtain ⟨rest, -, he⟩ := Option.map_eq_some_iff.mp h
    cases he
    exact Nat.zero_le _
  | cons c cs ih =>
    rw [splitFirst?] at h
    split at h
    · cases h
      exact Nat.zero_le _
    · next hstrip =>
      obtain ⟨p, hp, he⟩ := Option.map_eq_some_iff.mp h
      cases he
      cases b with
      | nil =>
        rw [hcs, List.nil_append, stripStart?_append] at hstrip
        cases hstrip
      | cons d b =>
        rw [List.cons_append, List.cons_append, List.cons.injEq] at hcs
        exact Nat.succ_le_succ (ih hp hcs.2)

theorem exists_splitFirst? (sep before after : List Char) :
    ∃ p, splitFirst? sep (before ++ sep ++ after) = some p := by
  induction before with
  | nil =>
    cases sep with
    | nil => cases after with
      | nil => exact ⟨_, rfl⟩
      | cons c after => exact ⟨_, rfl⟩
    | cons s sep =>
      rw [List.nil_append, List.cons_append, splitFirst?, ← List.cons_append, stripStart?_append]
      exact ⟨_, rfl⟩
  | cons c before ih =>
    obtain ⟨p, hp⟩ := ih
    rw [List.cons_append, List.cons_append, splitFirst?, hp]
    split <;> exact ⟨_, rfl⟩

theorem IsFirstSplit.unique {sep cs before after before' after' : List Char}
    (h : IsFirstSplit sep cs before after) (h' : IsFirstSplit sep cs before' after') :
    before = before' ∧ after = after' := by
  have hlength := Nat.le_antisymm (h.first _ _ h'.whole) (h'.first _ _ h.whole)
  have hwhole := h.whole.symm.trans h'.whole
  rw [List.append_assoc, List.append_assoc] at hwhole
  obtain ⟨rfl, hrest⟩ := List.append_inj hwhole hlength
  exact ⟨rfl, List.append_cancel_left hrest⟩

theorem splitFirst?_eq_some_iff {sep cs before after : List Char} :
    splitFirst? sep cs = some (before, after) ↔ IsFirstSplit sep cs before after := by
  have hfound {b a : List Char} (h : splitFirst? sep cs = some (b, a)) :
      IsFirstSplit sep cs b a :=
    ⟨eq_append_of_splitFirst? h, fun _ _ => length_le_of_splitFirst? h⟩
  refine ⟨hfound, fun h => ?_⟩
  obtain ⟨⟨b, a⟩, hp⟩ := exists_splitFirst? sep before after
  rw [← h.whole] at hp
  obtain ⟨rfl, rfl⟩ := h.unique (hfound hp)
  exact hp

/-- What follows an occurrence has no say in whether it is the first. -/
theorem IsFirstSplit.replace {sep cs before after : List Char}
    (h : IsFirstSplit sep cs before after) (rest : List Char) :
    IsFirstSplit sep (before ++ sep ++ rest) before rest := by
  refine ⟨rfl, fun b a hcs => ?_⟩
  by_contra hlt
  have hshort : (b ++ sep).length ≤ (before ++ sep).length := by
    rw [List.length_append, List.length_append]
    omega
  obtain ⟨more, hmore⟩ := List.prefix_of_prefix_length_le ⟨a, hcs.symm⟩
    (List.prefix_append (before ++ sep) rest) hshort
  exact hlt (h.first b (more ++ after) (by rw [h.whole, ← hmore, List.append_assoc]))

section Characters

variable {c : Char} {cs before after : List Char}

theorem splitFirst?_char_iff :
    splitFirst? [c] cs = some (before, after) ↔ cs = before ++ c :: after ∧ c ∉ before := by
  constructor
  · intro h
    refine ⟨by simpa using eq_append_of_splitFirst? h, fun hc => ?_⟩
    obtain ⟨start, rest, hbefore⟩ := List.append_of_mem hc
    have hle := (splitFirst?_eq_some_iff.mp h).first start (rest ++ [c] ++ after)
      (by rw [eq_append_of_splitFirst? h, hbefore]; simp)
    rw [hbefore, List.length_append, List.length_cons] at hle
    omega
  · rintro ⟨rfl, hc⟩
    rw [splitFirst?_append_of_not_mem hc, splitFirst?, stripStart?, if_pos rfl, stripStart?]
    exact congrArg (fun b => some (b, after)) (List.append_nil before)

theorem splitFirst?_char_eq_none_iff : splitFirst? [c] cs = none ↔ c ∉ cs := by
  rw [Option.eq_none_iff_forall_ne_some]
  constructor
  · intro h hc
    obtain ⟨before, after, hcs, hbefore⟩ := List.eq_append_cons_of_mem hc
    exact h (before, after) (splitFirst?_char_iff.mpr ⟨hcs, hbefore⟩)
  · rintro h ⟨before, after⟩ hsplit
    rw [(splitFirst?_char_iff.mp hsplit).1] at h
    exact h (List.mem_append_right before List.mem_cons_self)

theorem splitLast?_char_eq_none_iff : splitLast? [c] cs = none ↔ c ∉ cs := by
  induction cs with
  | nil => exact iff_of_true rfl List.not_mem_nil
  | cons d cs ih =>
    rw [splitLast?, List.mem_cons, not_or, ← ih]
    cases splitLast? [c] cs with
    | some p => simp
    | none => by_cases hc : c = d <;> simp [stripStart?, hc]

theorem exists_last_of_mem (h : c ∈ cs) :
    ∃ before after, cs = before ++ c :: after ∧ c ∉ after := by
  obtain ⟨after, before, hcs, hafter⟩ := List.eq_append_cons_of_mem (List.mem_reverse.mpr h)
  refine ⟨before.reverse, after.reverse, ?_, fun hc => hafter (List.mem_reverse.mp hc)⟩
  rw [← List.reverse_reverse cs, hcs]
  simp

theorem splitLast?_append (h : c ∉ after) (before : List Char) :
    splitLast? [c] (before ++ c :: after) = some (before, after) := by
  induction before with
  | nil =>
    rw [List.nil_append, splitLast?, splitLast?_char_eq_none_iff.mpr h, stripStart?, if_pos rfl]
    rfl
  | cons d before ih => rw [List.cons_append, splitLast?, ih]

theorem splitLast?_char_iff :
    splitLast? [c] cs = some (before, after) ↔ cs = before ++ c :: after ∧ c ∉ after := by
  refine ⟨fun h => ?_, fun ⟨hcs, hafter⟩ => hcs ▸ splitLast?_append hafter before⟩
  have hc : c ∈ cs := by
    by_contra hc
    rw [splitLast?_char_eq_none_iff.mpr hc] at h
    cases h
  obtain ⟨b, a, rfl, ha⟩ := exists_last_of_mem hc
  rw [splitLast?_append ha] at h
  cases h
  exact ⟨rfl, ha⟩

end Characters

end AccountRegistry.Text
