import AccountRegistry.Proofs.Sql.Reading

/-! # Parts of a text

Tokens whose parentheses match become the same items whatever stands before them. Texts that are
read one by one are also read with separators between them.
-/

namespace AccountRegistry.Sql

/-! ## Nesting -/

def Token.isPlain (t : Token) : Bool := t ≠ .opening && t ≠ .closing

/-- Some tokens become some items, whatever stands before them. -/
def Nests (params : List Datum) (ts : List Token) (items : List Item) : Prop :=
  ∀ outer before, ts.foldlM (nestToken params) (outer, before) = some (outer, before ++ items)

section

variable {params : List Datum} {ts us : List Token} {items : List Item}

theorem Nests.append {is js : List Item} (hts : Nests params ts is) (hus : Nests params us js) :
    Nests params (ts ++ us) (is ++ js) := by
  intro outer before
  rw [List.foldlM_append, hts, ← List.append_assoc]
  exact hus outer (before ++ is)

theorem nests_plain (h : ∀ t ∈ ts, t.isPlain = true) : Nests params ts (ts.map .token) := by
  induction ts with
  | nil =>
    intro outer before
    rw [List.map_nil, List.append_nil]
    rfl
  | cons t ts ih =>
    obtain ⟨ht, hts⟩ := List.forall_mem_cons.mp h
    have hstep : ∀ outer before, nestToken params (outer, before) t =
        some (outer, before ++ [.token t]) := by
      intro outer before
      cases t with
      | opening => cases ht
      | closing => cases ht
      | _ => rfl
    intro outer before
    rw [List.foldlM_cons, hstep, List.map_cons, List.append_cons before (.token t) (ts.map .token)]
    exact ih hts outer (before ++ [.token t])

theorem Nests.enclose {i : Item} (h : Nests params ts items) (hi : enclosed params items = some i) :
    Nests params (.opening :: ts ++ [.closing]) [i] := by
  intro outer before
  have hclose : nestToken params (before :: outer, items) .closing =
      some (outer, before ++ [i]) := by
    rw [nestToken, hi]
    rfl
  rw [List.cons_append, List.foldlM_cons, nestToken, Option.bind_eq_bind, Option.bind_some,
    List.foldlM_append, h, List.nil_append, Option.bind_eq_bind, Option.bind_some,
    List.foldlM_cons, hclose]
  rfl

theorem nest_of_nests (h : Nests params ts items) : nest params ts = some items := by
  rw [nest, h]
  rfl

end

/-! ## Separators -/

structure Separates (text : String) (sep : Token) : Prop where
  tokens : tokens? text = some [sep]
  ne_empty : text ≠ ""
  starts_free : startsFree text = true
  ends_free : endsFree text = true
  plain : sep.isPlain = true

theorem separates_or : Separates " OR " (.word "OR") := by
  constructor <;> decide

theorem separates_and : Separates " AND " (.word "AND") := by
  constructor <;> decide

theorem separates_comma : Separates ", " (.sign ",") := by
  constructor <;> decide

section

variable {params : List Datum} {α : Type} {sep : Token} {kind : Item → Prop}
  {read : List Item → Option α}

/-- A text has items of some kind, none of them a separator, from which a value is read. -/
def Reads (params : List Datum) (sep : Token) (kind : Item → Prop) (read : List Item → Option α)
    (text : String) (v : α) : Prop :=
  ∃ ts items, tokens? text = some ts ∧ Nests params ts items ∧
    (∀ i ∈ items, i.is sep = false ∧ kind i) ∧ read items = some v

theorem readSeparated_of_no_sep {items : List Item} (h : ∀ i ∈ items, i.is sep = false) :
    readSeparated sep read items = (read items).map fun v => [v] := by
  rw [readSeparated, List.splitOnP_eq_singleton h, List.mapM_cons, List.mapM_nil]
  cases read items <;> rfl

theorem readSeparated_cons {items rest : List Item} {v : α} {vs : List α}
    (h : ∀ i ∈ items, i.is sep = false) (hv : read items = some v)
    (hvs : readSeparated sep read rest = some vs) :
    readSeparated sep read (items ++ .token sep :: rest) = some (v :: vs) := by
  have hsep : (Item.token sep).is sep = true := beq_self_eq_true sep
  rw [readSeparated] at hvs ⊢
  rw [List.splitOnP_append_cons_of_forall_mem h _ hsep, List.mapM_cons, hv, hvs]
  rfl

/-- Texts with separators between them are read one by one. -/
theorem reads_joined {text : String} (hsep : Separates text sep) {texts : List String}
    {vs : List α} (h : List.Forall₂ (Reads params sep kind read) texts vs) (hne : texts ≠ []) :
    ∃ ts items, tokens? (joined text texts) = some ts ∧ Nests params ts items ∧
      (∀ i ∈ items, i = .token sep ∨ kind i) ∧ readSeparated sep read items = some vs := by
  induction h with
  | nil => exact absurd rfl hne
  | @cons s v texts vs hs hrest ih =>
    obtain ⟨ts, items, hts, hitems, hfree, hv⟩ := hs
    cases hrest with
    | nil =>
      refine ⟨ts, items, hts, hitems, fun i hi => .inr (hfree i hi).2, ?_⟩
      rw [readSeparated_of_no_sep fun i hi => (hfree i hi).1, hv]
      rfl
    | cons hs' hrest' =>
      obtain ⟨us, rest, hus, hrest, hkind, hvs⟩ := ih (List.cons_ne_nil _ _)
      refine ⟨ts ++ [sep] ++ us, items ++ .token sep :: rest, ?_, ?_, ?_, ?_⟩
      · rw [joined, String.intercalate_cons_cons]
        exact tokens?_between hts hsep.tokens hus hsep.ne_empty hsep.starts_free hsep.ends_free
      · have hplain : Nests params [sep] [.token sep] :=
          nests_plain (List.forall_mem_singleton.mpr hsep.plain)
        rw [List.append_assoc]
        exact hitems.append (hplain.append hrest)
      · intro i hi
        rcases List.mem_append.mp hi with hi | hi
        · exact .inr (hfree i hi).2
        · rcases List.mem_cons.mp hi with rfl | hi
          · exact .inl rfl
          · exact hkind i hi
      · exact readSeparated_cons (fun i hi => (hfree i hi).1) hv hvs

end

end AccountRegistry.Sql
