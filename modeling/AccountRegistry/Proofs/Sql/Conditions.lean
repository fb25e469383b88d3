import AccountRegistry.Proofs.Sql.Parts

/-! # Reading rendered conditions

The text of a condition is read as one operand, whatever stands around it, and has the truth of the
condition. The induction carries the values that the parameters from a number on have.
-/

namespace AccountRegistry.Sql

/-! ## Parameters -/

/-- The parameters from a number on start with some values. -/
def Binds (params ds : List Datum) (next : Nat) : Prop :=
  ∃ before after, params = before ++ ds ++ after ∧ next = before.length + 1

theorem binds_self (ds : List Datum) : Binds ds ds 1 := ⟨[], [], (List.append_nil ds).symm, rfl⟩

namespace Binds

variable {params ds es : List Datum} {d : Datum} {next : Nat}

theorem left (h : Binds params (ds ++ es) next) : Binds params ds next := by
  obtain ⟨before, after, rfl, rfl⟩ := h
  exact ⟨before, es ++ after, by simp only [List.append_assoc], rfl⟩

theorem right (h : Binds params (ds ++ es) next) : Binds params es (next + ds.length) := by
  obtain ⟨before, after, rfl, rfl⟩ := h
  refine ⟨before ++ ds, after, by simp only [List.append_assoc], ?_⟩
  rw [List.length_append]
  omega

theorem head (h : Binds params (d :: ds) next) : value? params next = some d := by
  obtain ⟨before, after, rfl, rfl⟩ := h
  rw [value?, List.append_assoc, List.getElem?_append_right (Nat.le_refl _), Nat.sub_self]
  rfl

theorem tail (h : Binds params (d :: ds) next) : Binds params ds (next + 1) :=
  @right params [d] ds next h

end Binds

/-! ## Operands -/

section

variable {params : List Datum}

/-- The item is a condition by itself. -/
def Item.IsOperand (i : Item) : Prop := ∃ c, i.operand? = some c

theorem Item.IsOperand.is_eq_false {i : Item} {t : Token} (h : i.IsOperand)
    (ht : (Item.token t).operand? = none) : i.is t = false := by
  obtain ⟨c, hc⟩ := h
  cases i with
  | token u =>
    refine beq_eq_false_iff_ne.mpr fun hu => ?_
    rw [hu, ht] at hc
    cases hc
  | condition _ => rfl
  | values _ => rfl

theorem Item.IsOperand.startsClause_eq_false {i : Item} (h : i.IsOperand) :
    i.startsClause = false := by
  rw [Item.startsClause, h.is_eq_false (by decide), h.is_eq_false (by decide),
    h.is_eq_false (by decide)]
  rfl

theorem startsClause_of_operands {sep : Token} (hsep : (Item.token sep).startsClause = false)
    {items : List Item} (h : ∀ i ∈ items, i = .token sep ∨ i.IsOperand) :
    ∀ i ∈ items, i.startsClause = false := by
  intro i hi
  rcases h i hi with rfl | hoperand
  · exact hsep
  · exact hoperand.startsClause_eq_false

theorem readAnd_of_no_and {items : List Item} (h : ∀ i ∈ items, i.is (.word "AND") = false) :
    readAnd params items = readNot params items := by
  rw [readAnd, readSeparated_of_no_sep h]
  cases readNot params items <;> rfl

theorem readOr_of_no_or {items : List Item} (h : ∀ i ∈ items, i.is (.word "OR") = false) :
    readOr params items = readAnd params items := by
  rw [readOr, readSeparated_of_no_sep h]
  cases readAnd params items <;> rfl

theorem readNot_operand {i : Item} {c : Condition} (h : i.operand? = some c) :
    readNot params [i] = some c := by
  rw [readNot, Item.IsOperand.is_eq_false ⟨c, h⟩ (by decide)]
  exact h

theorem readAnd_operand {i : Item} {c : Condition} (h : i.operand? = some c) :
    readAnd params [i] = some c := by
  have hand : i.is (.word "AND") = false := Item.IsOperand.is_eq_false ⟨c, h⟩ (by decide)
  rw [readAnd_of_no_and (List.forall_mem_singleton.mpr hand)]
  exact readNot_operand h

/-- A text is read as one operand, with the truth of a condition. -/
def ReadsAs (params : List Datum) (text : String) (c : Condition) : Prop :=
  ∃ ts i r, tokens? text = some ts ∧ Nests params ts [i] ∧ i.operand? = some r ∧
    ∀ a, r.truth a = c.truth a

/-- A whole text is read as a condition with a given truth, and as part of no other clause. -/
def ReadsWhole (params : List Datum) (text : String) (truth : Account → Truth) : Prop :=
  ∃ ts items r, tokens? text = some ts ∧ Nests params ts items ∧
    (∀ i ∈ items, i.startsClause = false) ∧ readOr params items = some r ∧ ∀ a, r.truth a = truth a

theorem ReadsWhole.enclose {text : String} {truth : Account → Truth} {c : Condition}
    (h : ReadsWhole params text truth) (hc : ∀ a, truth a = c.truth a) :
    ReadsAs params ("(" ++ text ++ ")") c := by
  obtain ⟨ts, items, r, hts, hitems, -, hr, htruth⟩ := h
  have hi : enclosed params items = some (.condition r) := by
    rw [enclosed, hr]
    rfl
  exact ⟨_, .condition r, r, tokens?_parentheses hts, hitems.enclose hi, rfl,
    fun a => (htruth a).trans (hc a)⟩

/-- Operands are read in a group, and their truths are those of some conditions. -/
theorem reads_of_readsAs (sep : Token) (read : List Item → Option Condition)
    (hsep : (Item.token sep).operand? = none)
    (hread : ∀ i c, i.operand? = some c → read [i] = some c) {texts : List String}
    {cs : List Condition} (h : List.Forall₂ (ReadsAs params) texts cs) :
    ∃ rs, List.Forall₂ (Reads params sep Item.IsOperand read) texts rs ∧
      ∀ a, rs.map (Condition.truth a) = cs.map (Condition.truth a) := by
  induction h with
  | nil => exact ⟨[], .nil, fun _ => rfl⟩
  | cons hs _ ih =>
    obtain ⟨ts, i, r, hts, hi, hr, htruth⟩ := hs
    obtain ⟨rs, hrs, htruths⟩ := ih
    have hoperand : i.IsOperand := ⟨r, hr⟩
    have hfree : ∀ j ∈ [i], j.is sep = false ∧ j.IsOperand :=
      List.forall_mem_singleton.mpr ⟨hoperand.is_eq_false hsep, hoperand⟩
    refine ⟨r :: rs, .cons ⟨ts, [i], hts, hi, hfree, hread i r hr⟩ hrs, fun a => ?_⟩
    rw [List.map_cons, List.map_cons, htruth, htruths]

theorem readsWhole_and {texts : List String} {cs : List Condition}
    (h : List.Forall₂ (ReadsAs params) texts cs) (hne : texts ≠ []) :
    ReadsWhole params (joined " AND " texts) fun a => Truth.all (cs.map (Condition.truth a)) := by
  obtain ⟨rs, hrs, htruths⟩ := reads_of_readsAs (.word "AND") (readNot params) (by decide)
    (fun _ _ => readNot_operand) h
  obtain ⟨ts, items, hts, hitems, hkind, hread⟩ := reads_joined separates_and hrs hne
  refine ⟨ts, items, .conjunction rs, hts, hitems,
    startsClause_of_operands (by decide) hkind, ?_, fun a => ?_⟩
  · have hor : ∀ i ∈ items, i.is (.word "OR") = false := fun i hi => by
      rcases hkind i hi with rfl | h
      · decide
      · exact h.is_eq_false (by decide)
    rw [readOr_of_no_or hor, readAnd, hread]
    rfl
  · rw [Condition.truth_conjunction, htruths]

theorem readsWhole_or {texts : List String} {cs : List Condition}
    (h : List.Forall₂ (ReadsAs params) texts cs) (hne : texts ≠ []) :
    ReadsWhole params (joined " OR " texts) fun a => Truth.any (cs.map (Condition.truth a)) := by
  obtain ⟨rs, hrs, htruths⟩ := reads_of_readsAs (.word "OR") (readAnd params) (by decide)
    (fun _ _ => readAnd_operand) h
  obtain ⟨ts, items, hts, hitems, hkind, hread⟩ := reads_joined separates_or hrs hne
  refine ⟨ts, items, .disjunction rs, hts, hitems,
    startsClause_of_operands (by decide) hkind, ?_, fun a => ?_⟩
  · rw [readOr, hread]
    rfl
  · rw [Condition.truth_disjunction, htruths]

theorem readsWhole_not {text : String} {c : Condition} (h : ReadsAs params text c) :
    ReadsWhole params ("NOT " ++ text) fun a => (c.truth a).not := by
  obtain ⟨ts, i, r, hts, hi, hr, htruth⟩ := h
  have hoperand : i.IsOperand := ⟨r, hr⟩
  have hplain : Nests params [.word "NOT"] [.token (.word "NOT")] :=
    nests_plain (List.forall_mem_singleton.mpr (by decide))
  have hno : ∀ t : Token, (Item.token (.word "NOT")).is t = false → (Item.token t).operand? = none →
      ∀ j ∈ [.token (.word "NOT"), i], j.is t = false := fun t hnot ht =>
    List.forall_mem_cons.mpr ⟨hnot, List.forall_mem_singleton.mpr (hoperand.is_eq_false ht)⟩
  have hclause : ∀ j ∈ [.token (.word "NOT"), i], j.startsClause = false :=
    List.forall_mem_cons.mpr
      ⟨by decide, List.forall_mem_singleton.mpr hoperand.startsClause_eq_false⟩
  refine ⟨_, _, .not r, tokens?_append (by decide) hts (.inl (by decide)), hplain.append hi,
    hclause, ?_, fun a => ?_⟩
  · rw [List.singleton_append, readOr_of_no_or (hno _ (by decide) (by decide)),
      readAnd_of_no_and (hno _ (by decide) (by decide)), readNot, if_pos (by decide),
      readNot_operand hr]
    rfl
  · rw [Condition.truth, htruth]

/-! ## Tests of a field -/

/-- A token that may stand in a test of a field or in an order by one. -/
def Token.isInner (t : Token) : Bool :=
  t.isPlain && t ∉ [.word "OR", .word "AND", .sign ",", .word "ORDER", .word "LIMIT",
    .word "OFFSET"]

theorem Token.isPlain_of_isInner {t : Token} (h : t.isInner = true) : t.isPlain = true := by
  rw [isInner, Bool.and_eq_true] at h
  exact h.1

/-- The item is no token that separates operands or starts a clause. -/
def Item.IsInner (i : Item) : Prop := ∀ u : Token, u.isInner = false → i.is u = false

theorem Item.isInner_token {t : Token} (h : t.isInner = true) : (Item.token t).IsInner := by
  intro u hu
  refine beq_eq_false_iff_ne.mpr fun he => ?_
  rw [he, hu] at h
  cases h

theorem Item.IsInner.startsClause_eq_false {i : Item} (h : i.IsInner) :
    i.startsClause = false := by
  rw [Item.startsClause, h (.word "ORDER") (by decide), h (.word "LIMIT") (by decide),
    h (.word "OFFSET") (by decide)]
  rfl

theorem isInner_of_mem_map {ts : List Token} (h : ∀ t ∈ ts, t.isInner = true) :
    ∀ i ∈ ts.map Item.token, i.IsInner := by
  intro i hi
  obtain ⟨t, ht, rfl⟩ := List.mem_map.mp hi
  exact Item.isInner_token (h t ht)

theorem nests_inner {ts : List Token} (h : ∀ t ∈ ts, t.isInner = true) :
    Nests params ts (ts.map .token) :=
  nests_plain fun t ht => Token.isPlain_of_isInner (h t ht)

def fieldTokens (f : Field) : List Token := (tokens? f.accessor).getD []

theorem tokens?_accessor (f : Field) : tokens? f.accessor = some (fieldTokens f) := by
  cases f <;> rfl

theorem isInner_of_mem_fieldTokens (f : Field) : ∀ t ∈ fieldTokens f, t.isInner = true := by
  cases f <;> decide

theorem readCast_of_no_cast {i : Item} (h : i.is (.sign "::") = false) (rest : List Item) :
    readCast (i :: rest) = (none, i :: rest) := by
  rw [readCast]
  intro type rest' hi
  injection hi with hi
  rw [hi] at h
  exact absurd h (by decide)

theorem readColumn_fieldTokens (f : Field) {i : Item} (h : i.is (.sign "::") = false)
    (rest : List Item) :
    readColumn ((fieldTokens f).map .token ++ i :: rest) = some (.ofField f, i :: rest) := by
  have hplain : ∀ table name : String,
      readColumn (.token (.word table) :: .token (.sign ".") :: .token (.word name) :: i :: rest) =
        some (⟨table, name, none⟩, i :: rest) := by
    intro table name
    rw [readColumn, readCast_of_no_cast h]
    rfl
  cases f with
  | kind => rfl
  | companyId => rfl
  | _ => exact hplain _ _

theorem readField_fieldTokens (f : Field) {i : Item} (h : i.is (.sign "::") = false)
    (rest : List Item) :
    readField ((fieldTokens f).map .token ++ i :: rest) = some (f, i :: rest) := by
  have hfind : (Field.all.find? fun g => Column.ofField g == Column.ofField f) = some f := by
    cases f <;> decide
  rw [readField, readColumn_fieldTokens f h]
  change (Field.all.find? _).bind _ = _
  rw [hfind]
  rfl

theorem readNot_test (f : Field) {i : Item} (h : i.is (.sign "::") = false) (rest : List Item) :
    readNot params ((fieldTokens f).map .token ++ i :: rest) = readTest params f (i :: rest) := by
  have hread := readField_fieldTokens f h rest
  have hprimary : readNot params ((fieldTokens f).map .token ++ i :: rest) =
      (readField ((fieldTokens f).map .token ++ i :: rest)).bind
        fun r => readTest params r.1 r.2 := by
    cases f <;> rfl
  rw [hprimary, hread]
  rfl

/-- A field and what follows it is read as a test. -/
theorem readsWhole_test {f : Field} {text : String} {ts : List Token} {i : Item}
    {rest : List Item} {r c : Condition} (hts : tokens? text = some ts)
    (hstart : startsFree text = true) (hn : Nests params ts (i :: rest))
    (hinner : ∀ j ∈ i :: rest, j.IsInner) (hcast : i.is (.sign "::") = false)
    (hr : readTest params f (i :: rest) = some r) (htruth : ∀ a, r.truth a = c.truth a) :
    ReadsWhole params (f.accessor ++ text) fun a => c.truth a := by
  have hall : ∀ j ∈ (fieldTokens f).map .token ++ i :: rest, j.IsInner := fun j hj =>
    (List.mem_append.mp hj).elim (isInner_of_mem_map (isInner_of_mem_fieldTokens f) j) (hinner j)
  refine ⟨_, _, r, tokens?_append (tokens?_accessor f) hts (.inr hstart),
    (nests_inner (isInner_of_mem_fieldTokens f)).append hn,
    fun j hj => (hall j hj).startsClause_eq_false, ?_, htruth⟩
  rw [readOr_of_no_or fun j hj => hall j hj _ (by decide),
    readAnd_of_no_and fun j hj => hall j hj _ (by decide), readNot_test f hcast, hr]

theorem readsWhole_plainTest {f : Field} {text : String} {t : Token} {ts : List Token}
    {r c : Condition} (hts : tokens? text = some (t :: ts)) (hstart : startsFree text = true)
    (hinner : ∀ u ∈ t :: ts, u.isInner = true) (hcast : (Item.token t).is (.sign "::") = false)
    (hr : readTest params f ((t :: ts).map .token) = some r)
    (htruth : ∀ a, r.truth a = c.truth a) :
    ReadsWhole params (f.accessor ++ text) fun a => c.truth a :=
  readsWhole_test hts hstart (nests_inner hinner) (isInner_of_mem_map hinner) hcast hr htruth

/-- The first token of a comparison. -/
def comparisonToken : Comparison → Token
  | .eq => .sign "="
  | .ne => .sign "!="
  | .gt => .sign ">"
  | .lt => .sign "<"
  | .ge => .sign ">="
  | .le => .sign "<="
  | .like => .word "LIKE"
  | .ilike => .word "ILIKE"
  | .isNull => .word "IS"
  | .isNotNull => .word "IS"

theorem tokens?_comparison {op : Comparison} (h : op.takesValue = true) :
    tokens? (" " ++ op.sql ++ " ") = some [comparisonToken op] := by
  cases op with
  | isNull => cases h
  | isNotNull => cases h
  | _ => decide

theorem readTest_comparison (f : Field) {op : Comparison} (h : op.takesValue = true) {n : Nat}
    {d : Datum} (hd : value? params n = some d) :
    readTest params f [.token (comparisonToken op), .token (.parameter n)] =
      some (.compare f op d) := by
  have hvalue : readValue params [.token (.parameter n)] = some d := hd
  cases op with
  | isNull => cases h
  | isNotNull => cases h
  | _ => exact congrArg (Option.bind · fun v => some (Condition.compare f _ v)) hvalue

theorem readsWhole_compare (f : Field) {op : Comparison} (h : op.takesValue = true) {n : Nat}
    {d : Datum} (hd : value? params n = some d) :
    ReadsWhole params (f.accessor ++ (" " ++ op.sql ++ " " ++ placeholder n))
      fun a => (Condition.compare f op d).truth a := by
  have htokens : tokens? (" " ++ op.sql ++ " " ++ placeholder n) =
      some [comparisonToken op, .parameter n] :=
    tokens?_append (tokens?_comparison h) (tokens?_placeholder n)
      (.inl (endsFree_append (by decide) (by decide)))
  have hstart : startsFree (" " ++ op.sql ++ " " ++ placeholder n) = true := by
    rw [String.append_assoc, String.append_assoc]
    exact startsFree_append (by decide) (by decide)
  have hinner : ∀ u ∈ [comparisonToken op, .parameter n], u.isInner = true := by
    refine List.forall_mem_cons.mpr ⟨by cases op <;> decide, List.forall_mem_singleton.mpr ?_⟩
    simp [Token.isInner, Token.isPlain]
  exact readsWhole_plainTest htokens hstart hinner (by cases op <;> decide)
    (readTest_comparison f h hd) fun _ => rfl

theorem readsWhole_nullTest (f : Field) {op : Comparison} (h : op.takesValue = false) (d : Datum) :
    ReadsWhole params (f.accessor ++ (" " ++ op.sql))
      fun a => (Condition.compare f op d).truth a := by
  cases op with
  | isNull =>
    have htokens : tokens? " IS NULL" = some [.word "IS", .word "NULL"] := by decide
    have hread : readTest params f [.token (.word "IS"), .token (.word "NULL")] =
        some (.isNull f) := rfl
    exact readsWhole_plainTest htokens (by decide) (by decide) (by decide) hread fun _ => rfl
  | isNotNull =>
    have htokens : tokens? " IS NOT NULL" = some [.word "IS", .word "NOT", .word "NULL"] := by
      decide
    have hread : readTest params f [.token (.word "IS"), .token (.word "NOT"),
        .token (.word "NULL")] = some (.isNotNull f) := rfl
    exact readsWhole_plainTest htokens (by decide) (by decide) (by decide) hread fun _ => rfl
  | _ => cases h

/-! ## Membership -/

/-- The items of a list of values. -/
def Item.IsParameter (i : Item) : Prop := ∃ n, i = .token (.parameter n)

theorem reads_places {ds : List Datum} {next : Nat} (h : Binds params ds next) :
    List.Forall₂ (Reads params (.sign ",") Item.IsParameter (readValue params))
      ((List.range ds.length).map fun i => placeholder (next + i)) ds := by
  induction ds generalizing next with
  | nil => exact .nil
  | cons d ds ih =>
    have hrest : (List.range (d :: ds).length).map (fun i => placeholder (next + i)) =
        placeholder next :: (List.range ds.length).map fun i => placeholder (next + 1 + i) := by
      rw [List.length_cons, List.range_succ_eq_map, List.map_cons, List.map_map, Nat.add_zero]
      refine congrArg _ (List.map_congr_left fun i _ => congrArg placeholder ?_)
      omega
    rw [hrest]
    refine .cons ⟨[.parameter next], [.token (.parameter next)], tokens?_placeholder next,
      nests_plain (List.forall_mem_singleton.mpr rfl), ?_, h.head⟩ (ih h.tail)
    exact List.forall_mem_singleton.mpr ⟨rfl, next, rfl⟩

theorem readOr_values {items : List Item}
    (h : ∀ i ∈ items, i = .token (.sign ",") ∨ i.IsParameter) : readOr params items = none := by
  have his : ∀ i ∈ items, ∀ s, i.is (.word s) = false := by
    intro i hi s
    rcases h i hi with rfl | ⟨n, rfl⟩ <;> rfl
  rw [readOr_of_no_or fun i hi => his i hi _, readAnd_of_no_and fun i hi => his i hi _]
  cases items with
  | nil => rfl
  | cons i rest =>
    rw [readNot, his i (.head _), if_neg (by decide)]
    cases rest with
    | nil => rcases h i (.head _) with rfl | ⟨n, rfl⟩ <;> rfl
    | cons j rest => rcases h i (.head _) with rfl | ⟨n, rfl⟩ <;> rfl

theorem readsWhole_oneOf (f : Field) {ds : List Datum} {next : Nat} (h : Binds params ds next)
    (hne : ds ≠ []) :
    ReadsWhole params (f.accessor ++ (" IN " ++ ("(" ++ joined ", "
      ((List.range ds.length).map fun i => placeholder (next + i)) ++ ")")))
      fun a => (Condition.oneOf f ds).truth a := by
  obtain ⟨ts, items, hts, hitems, hkind, hread⟩ := reads_joined separates_comma (reads_places h)
    (by simpa using hne)
  have hi : enclosed params items = some (.values ds) := by
    rw [enclosed, readOr_values hkind, hread]
    rfl
  have hplain : Nests params [.word "IN"] [.token (.word "IN")] :=
    nests_plain (List.forall_mem_singleton.mpr (by decide))
  have hinner : ∀ j ∈ [Item.token (.word "IN"), .values ds], j.IsInner :=
    List.forall_mem_cons.mpr
      ⟨Item.isInner_token (by decide), List.forall_mem_singleton.mpr fun _ _ => rfl⟩
  have htokens : tokens? " IN " = some [.word "IN"] := by decide
  have hread : readTest params f [.token (.word "IN"), .values ds] = some (.memberOf f ds) := rfl
  refine readsWhole_test (tokens?_append htokens (tokens?_parentheses hts) (.inl (by decide)))
    (startsFree_append (by decide) (by decide)) (hplain.append (hitems.enclose hi)) hinner
    (by decide) hread fun a => ?_
  rw [Condition.truth_memberOf, Condition.truth]

/-! ## All conditions -/

theorem compare_sql_of_takesValue (f : Field) {op : Comparison} (h : op.takesValue = true)
    (d : Datum) (next : Nat) : (Condition.compare f op d).sql next =
      "(" ++ (f.accessor ++ (" " ++ op.sql ++ " " ++ placeholder next)) ++ ")" := by
  rw [Condition.sql, if_pos h]
  simp only [String.append_assoc]
  rfl

theorem compare_sql_of_not_takesValue (f : Field) {op : Comparison} (h : op.takesValue = false)
    (d : Datum) (next : Nat) : (Condition.compare f op d).sql next =
      "(" ++ (f.accessor ++ (" " ++ op.sql)) ++ ")" := by
  rw [Condition.sql, if_neg (by rw [h]; decide)]
  simp only [String.append_assoc]
  rfl

theorem oneOf_sql (f : Field) {ds : List Datum} (h : ds ≠ []) (next : Nat) :
    (Condition.oneOf f ds).sql next = "(" ++ (f.accessor ++ (" IN " ++ ("(" ++ joined ", "
      ((List.range ds.length).map fun i => placeholder (next + i)) ++ ")"))) ++ ")" := by
  rw [Condition.sql, if_neg (by rwa [List.isEmpty_iff])]
  simp only [String.append_assoc]
  rfl

theorem not_sql (c : Condition) (next : Nat) :
    (Condition.not c).sql next = "(" ++ ("NOT " ++ c.sql next) ++ ")" := by
  rw [Condition.sql, ← String.append_assoc]
  rfl

theorem readsAs_true : ReadsAs params "TRUE" .always :=
  ⟨[.word "TRUE"], .token (.word "TRUE"), .always, by decide, nests_plain (by decide), rfl,
    fun _ => rfl⟩

theorem readsAs_false : ReadsAs params "FALSE" .never :=
  ⟨[.word "FALSE"], .token (.word "FALSE"), .never, by decide, nests_plain (by decide), rfl,
    fun _ => rfl⟩

theorem ReadsAs.congr {text : String} {c d : Condition} (h : ReadsAs params text c)
    (htruth : ∀ a, c.truth a = d.truth a) : ReadsAs params text d := by
  obtain ⟨ts, i, r, hts, hi, hr, hc⟩ := h
  exact ⟨ts, i, r, hts, hi, hr, fun a => (hc a).trans (htruth a)⟩

mutual

/-- A condition is read from its text, when its values are bound from its first parameter on. -/
theorem readsAs_sql : ∀ (c : Condition) (next : Nat), Binds params c.parameters next →
    ReadsAs params (c.sql next) c
  | .compare f op d, next, h => by
    cases hop : op.takesValue with
    | true =>
      rw [Condition.parameters, if_pos hop] at h
      rw [compare_sql_of_takesValue f hop]
      exact (readsWhole_compare f hop h.head).enclose fun _ => rfl
    | false =>
      rw [compare_sql_of_not_takesValue f hop]
      exact (readsWhole_nullTest f hop d).enclose fun _ => rfl
  | .oneOf f [], next, _ => readsAs_false.congr fun _ => rfl
  | .oneOf f (d :: ds), next, h => by
    rw [oneOf_sql f (List.cons_ne_nil d ds)]
    exact (readsWhole_oneOf f h (List.cons_ne_nil d ds)).enclose fun _ => rfl
  | .any [], next, _ => readsAs_false.congr fun _ => rfl
  | .any (c :: cs), next, h =>
    (readsWhole_or (readsAs_sqlAll (c :: cs) next h) (List.cons_ne_nil _ _)).enclose
      fun a => (Condition.truth_any a _).symm
  | .all [], next, _ => readsAs_true.congr fun _ => rfl
  | .all (c :: cs), next, h =>
    (readsWhole_and (readsAs_sqlAll (c :: cs) next h) (List.cons_ne_nil _ _)).enclose
      fun a => (Condition.truth_all a _).symm
  | .not c, next, h => by
    rw [not_sql]
    exact (readsWhole_not (readsAs_sql c next h)).enclose fun _ => rfl
  | .always, next, _ => readsAs_true
  | .never, next, _ => readsAs_false

theorem readsAs_sqlAll : ∀ (cs : List Condition) (next : Nat),
    Binds params (Condition.parametersAll cs) next →
      List.Forall₂ (ReadsAs params) (Condition.sqlAll next cs) cs
  | [], _, _ => .nil
  | c :: cs, next, h => .cons (readsAs_sql c next h.left) (readsAs_sqlAll cs _ h.right)

end

end

end AccountRegistry.Sql
