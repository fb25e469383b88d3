import AccountRegistry.Proofs.Result
import AccountRegistry.Proofs.Sql.Conditions
import Mathlib.Data.List.TakeDrop

/-! # Reading rendered statements

The statements of a query are read clause by clause. Their condition has the truth of the predicate
of the query, and their order is that of the query with the identifier as its last clause.
-/

namespace AccountRegistry.Sql

/-! ## Clauses -/

/-- The items stand where a clause starts, or where the statement ends. -/
def AtClause (items : List Item) : Prop := items.head?.all Item.startsClause = true

theorem AtClause.append {items rest : List Item} (h : AtClause items) (hrest : AtClause rest) :
    AtClause (items ++ rest) := by
  cases items with
  | nil => exact hrest
  | cons i items => exact h

theorem span_startsClause {items rest : List Item} (h : ∀ i ∈ items, i.startsClause = false)
    (hrest : AtClause rest) : (items ++ rest).span (!·.startsClause) = (items, rest) := by
  have hpos : ∀ i ∈ items, (!i.startsClause) = true := fun i hi => by rw [h i hi]; rfl
  rw [List.span_eq_takeWhile_dropWhile, List.takeWhile_append_of_pos hpos,
    List.dropWhile_append_of_pos hpos]
  cases rest with
  | nil => rw [List.takeWhile_nil, List.dropWhile_nil, List.append_nil]
  | cons i rest =>
    have hi : i.startsClause = true := hrest
    rw [List.takeWhile_cons, List.dropWhile_cons, hi]
    simp

theorem readWhere_of_atClause {params : List Datum} {items : List Item} (h : AtClause items) :
    readWhere params items = some (.always, items) := by
  rw [readWhere]
  rintro rest rfl
  cases h

theorem startsFree_whereClause (q : Query) : startsFree q.whereClause = true := by
  rw [Query.whereClause]
  split
  · rfl
  · exact startsFree_append (by decide) (by decide)

/-- The text after the tables gives the condition of a query. -/
theorem reads_whereClause (q : Query) :
    ∃ ts items r, tokens? q.whereClause = some ts ∧ Nests q.parameters ts items ∧
      (∀ rest, AtClause rest → readWhere q.parameters (items ++ rest) = some (r, rest)) ∧
      ∀ a, r.truth a = q.predicate.truth a := by
  cases hq : q.conditions with
  | nil =>
    have hnil : Nests q.parameters [] [] := nests_plain (List.forall_mem_nil _)
    refine ⟨[], [], .always, ?_, hnil, fun rest h => readWhere_of_atClause h, fun a => ?_⟩
    · rw [Query.whereClause, hq]
      rfl
    · rw [Query.truth_predicate, hq]
      rfl
  | cons c cs =>
    have hbinds : Binds q.parameters (Condition.parametersAll q.conditions) 1 :=
      binds_self _
    have htexts := readsAs_sqlAll q.conditions 1 hbinds
    have hne : Condition.sqlAll 1 q.conditions ≠ [] := by
      rw [hq, Condition.sqlAll]
      exact List.cons_ne_nil _ _
    obtain ⟨ts, items, r, hts, hitems, hclause, hr, htruth⟩ := readsWhole_and htexts hne
    have hwhere : Nests q.parameters [.word "WHERE"] [.token (.word "WHERE")] :=
      nests_plain (by decide)
    refine ⟨_, _, r, ?_, hwhere.append hitems, fun rest h => ?_, fun a => ?_⟩
    · rw [Query.whereClause, if_neg (by rw [hq]; exact Bool.false_ne_true)]
      exact tokens?_append (by decide) hts (.inl (by decide))
    · rw [List.append_assoc, List.singleton_append, readWhere, span_startsClause hclause h]
      simp only [hr, Option.map_some]
    · rw [htruth, Query.truth_predicate]

/-! ## Orders -/

/-- The clauses that a query is rendered with. -/
def renderedOrder (q : Query) : List SortClause :=
  q.order ++ if q.order.any fun s => s.field == .id then [] else [⟨.id, .asc, false⟩]

theorem orderClause_eq (q : Query) :
    q.orderClause = joined ", " ((renderedOrder q).map SortClause.sql) := by
  rw [Query.orderClause, renderedOrder, List.map_append]
  split <;> rfl

theorem renderedOrder_ne_nil (q : Query) : renderedOrder q ≠ [] := by
  rw [renderedOrder]
  intro h
  obtain ⟨hq, hlast⟩ := List.append_eq_nil_iff.mp h
  rw [hq] at hlast
  exact absurd hlast (List.cons_ne_nil _ _)

/-- A clause as it is read: ascending values have nulls last whether the text says so or not. -/
def readBack (s : SortClause) : SortClause :=
  ⟨s.field, s.direction, s.nullsLast || s.direction = .asc⟩

/-- Nulls do not occur, so where they would stand makes no difference. -/
theorem compare_readBack (s : SortClause) : (readBack s).compare = s.compare := by
  cases h : s.direction with
  | asc =>
    rw [SortClause.compare_asc h]
    exact SortClause.compare_asc (s := readBack s) h
  | desc =>
    rw [SortClause.compare_desc h]
    exact SortClause.compare_desc (s := readBack s) h

def placingTokens : SortDirection → Bool → List Token
  | .asc, false => [.word "ASC"]
  | .asc, true => [.word "ASC", .word "NULLS", .word "LAST"]
  | .desc, false => [.word "DESC"]
  | .desc, true => [.word "DESC", .word "NULLS", .word "LAST"]

theorem isInner_of_mem_placingTokens (d : SortDirection) (nullsLast : Bool) :
    ∀ t ∈ placingTokens d nullsLast, t.isInner = true := by
  cases d <;> cases nullsLast <;> decide

theorem sortClause_sql (s : SortClause) : s.sql =
    s.field.accessor ++ (" " ++ s.direction.sql ++ if s.nullsLast then " NULLS LAST" else "") := by
  rw [SortClause.sql]
  simp only [String.append_assoc]
  rfl

theorem tokens?_sortClause (s : SortClause) :
    tokens? s.sql = some (fieldTokens s.field ++ placingTokens s.direction s.nullsLast) := by
  have hplacing : ∀ (d : SortDirection) (nullsLast : Bool),
      tokens? (" " ++ d.sql ++ if nullsLast then " NULLS LAST" else "") =
        some (placingTokens d nullsLast) := by
    intro d nullsLast
    cases d <;> cases nullsLast <;> decide
  rw [sortClause_sql]
  refine tokens?_append (tokens?_accessor s.field) (hplacing _ _) (.inr ?_)
  rw [String.append_assoc]
  exact startsFree_append (by decide) (by decide)

theorem readSortClause_placing (s : SortClause) :
    readSortClause ((fieldTokens s.field).map .token ++
      (placingTokens s.direction s.nullsLast).map .token) = some (readBack s) := by
  obtain ⟨f, d, nullsLast⟩ := s
  have hfield : ∀ (t : Token) (ts : List Token), (Item.token t).is (.sign "::") = false →
      readField ((fieldTokens f).map .token ++ (t :: ts).map .token) =
        some (f, (t :: ts).map .token) := fun t ts ht => readField_fieldTokens f ht _
  cases d <;> cases nullsLast <;>
    (rw [readSortClause, placingTokens, hfield _ _ (by decide)]
     rfl)

theorem reads_sortClause (params : List Datum) (s : SortClause) :
    Reads params (.sign ",") (fun i => i.startsClause = false) readSortClause s.sql
      (readBack s) := by
  have hinner : ∀ t ∈ fieldTokens s.field ++ placingTokens s.direction s.nullsLast,
      t.isInner = true := by
    intro t ht
    rcases List.mem_append.mp ht with ht | ht
    · exact isInner_of_mem_fieldTokens s.field t ht
    · exact isInner_of_mem_placingTokens _ _ t ht
  have hread := readSortClause_placing s
  rw [← List.map_append] at hread
  refine ⟨_, _, tokens?_sortClause s, nests_inner hinner, fun i hi => ?_, hread⟩
  have hi := isInner_of_mem_map hinner i hi
  exact ⟨hi _ (by decide), hi.startsClause_eq_false⟩

/-- The text of an order gives its clauses. -/
theorem reads_orderClause (q : Query) (params : List Datum) :
    ∃ ts items, tokens? (" ORDER BY " ++ q.orderClause) = some ts ∧ Nests params ts items ∧
      AtClause items ∧ ∀ rest, AtClause rest →
        readOrder (items ++ rest) = some ((renderedOrder q).map readBack, rest) := by
  have hclauses : List.Forall₂ (Reads params (.sign ",") (fun i => i.startsClause = false)
      readSortClause) ((renderedOrder q).map SortClause.sql) ((renderedOrder q).map readBack) := by
    rw [List.forall₂_map_left_iff, List.forall₂_map_right_iff, List.forall₂_same]
    exact fun s _ => reads_sortClause params s
  obtain ⟨ts, items, hts, hitems, hkind, hread⟩ := reads_joined separates_comma hclauses
    (mt List.map_eq_nil_iff.mp (renderedOrder_ne_nil q))
  have hclause : ∀ i ∈ items, i.startsClause = false := fun i hi =>
    (hkind i hi).elim (fun h => by rw [h]; rfl) id
  have hby : Nests params [.word "ORDER", .word "BY"]
      [.token (.word "ORDER"), .token (.word "BY")] := nests_plain (by decide)
  refine ⟨_, _, ?_, hby.append hitems, rfl, fun rest h => ?_⟩
  · rw [orderClause_eq]
    exact tokens?_append (by decide) hts (.inl (by decide))
  · rw [List.append_assoc, List.cons_append, List.singleton_append, readOrder,
      span_startsClause hclause h]
    simp only [hread, Option.map_some]

/-! ## Windows -/

theorem tokens?_keywordNumber {text : String} {t : Token} (ht : tokens? text = some [t])
    (hend : endsFree text = true) (n : Nat) :
    tokens? (text ++ n.repr) = some [t, .number n] :=
  tokens?_append ht (tokens?_repr n) (.inl hend)

def windowTokens (w : Window) : List Token :=
  (w.limit.elim [] fun n => [.word "LIMIT", .number n.toNat]) ++
    if w.offset = 0 then [] else [.word "OFFSET", .number w.offset.toNat]

theorem tokens?_windowClause (w : Window) :
    tokens? (Query.windowClause w) = some (windowTokens w) ∧
      startsFree (Query.windowClause w) = true := by
  have hoffset : tokens? (if w.offset = 0 then "" else s!" OFFSET {w.offset.toNat}") =
      some (if w.offset = 0 then [] else [.word "OFFSET", .number w.offset.toNat]) ∧
      startsFree (if w.offset = 0 then "" else s!" OFFSET {w.offset.toNat}") = true := by
    split
    · exact ⟨rfl, rfl⟩
    · exact ⟨tokens?_keywordNumber (by decide) (by decide) w.offset.toNat,
        startsFree_append (s := " OFFSET ") (by decide) (by decide)⟩
  rw [Query.windowClause, windowTokens]
  cases w.limit with
  | none => exact ⟨tokens?_append (s := "") rfl hoffset.1 (.inl rfl), by simpa using hoffset.2⟩
  | some n =>
    have hlimit : tokens? (" LIMIT " ++ n.toNat.repr) = some [.word "LIMIT", .number n.toNat] :=
      tokens?_keywordNumber (by decide) (by decide) n.toNat
    refine ⟨tokens?_append hlimit hoffset.1 (.inr hoffset.2), ?_⟩
    exact startsFree_append (by simp) (startsFree_append (s := " LIMIT ") (by decide) (by decide))

theorem nests_windowTokens (w : Window) (params : List Datum) :
    Nests params (windowTokens w) ((windowTokens w).map .token) := by
  refine nests_plain fun t ht => ?_
  obtain ⟨limit, offset⟩ := w
  rw [windowTokens] at ht
  rcases List.mem_append.mp ht with ht | ht
  · cases limit with
    | none => cases ht
    | some n => rcases List.mem_pair.mp ht with rfl | rfl <;> rfl
  · split at ht
    · cases ht
    · rcases List.mem_pair.mp ht with rfl | rfl <;> rfl

/-- The text of a window gives its limit and its offset. -/
theorem reads_windowClause (w : Window) :
    AtClause ((windowTokens w).map .token) ∧
      ∃ rest, readLimit ((windowTokens w).map .token) = (w.limit.map UInt64.toNat, rest) ∧
        readOffset rest = (w.offset.toNat, []) := by
  obtain ⟨limit, offset⟩ := w
  by_cases h : offset = 0
  · rw [windowTokens, if_pos h, h]
    cases limit with
    | none => exact ⟨rfl, _, rfl, rfl⟩
    | some n => exact ⟨rfl, _, rfl, rfl⟩
  · rw [windowTokens, if_neg h]
    cases limit with
    | none => exact ⟨rfl, _, rfl, rfl⟩
    | some n => exact ⟨rfl, _, rfl, rfl⟩

/-! ## Tables -/

theorem tokens?_fromClause {q : Query} {text : String} (h : q.fromClause = .ok text) :
    tokens? text = some (.quoted q.schema :: joinTokens q.schema) := by
  obtain ⟨schema, hschema, htext⟩ := bind_eq_ok_iff.mp h
  have hquoted := tokens?_quoteIdentifier hschema
  cases htext
  have haccounts : tokens? ".\"accounts\" AS a INNER JOIN " =
      some [.sign ".", .quoted "accounts", .word "AS", .word "a", .word "INNER", .word "JOIN"] :=
    (tokens?_ofList _).trans (by decide)
  have hcompanies : tokens? ".\"companies\" AS c ON c.id = a.company_id" =
      some [.sign ".", .quoted "companies", .word "AS", .word "c", .word "ON", .word "c",
        .sign ".", .word "id", .sign "=", .word "a", .sign ".", .word "company_id"] :=
    (tokens?_ofList _).trans (by decide)
  have hall := tokens?_append (tokens?_between hquoted haccounts hquoted (by decide) (by decide)
    (by decide)) hcompanies (.inr (by decide))
  simp only [String.append_assoc] at hall
  simp only [toString, String.append_assoc]
  exact hall

theorem readTables_joinTokens (schema : String) (rest : List Token) :
    readTables (.quoted schema :: joinTokens schema ++ rest) = some (schema, rest) := by
  rw [List.cons_append, readTables, if_pos (List.prefix_append _ _), List.drop_left]

/-! ## Heads -/

def columnTokens : List Token :=
  [.word "a", .sign ".", .word "id", .sign ",",
    .word "a", .sign ".", .quoted "type", .sign "::", .word "text", .word "AS",
    .word "account_type", .sign ",",
    .word "a", .sign ".", .word "currency", .sign ",",
    .word "a", .sign ".", .word "account", .sign ",",
    .word "a", .sign ".", .word "company_id", .sign ","] ++
  [.word "c", .sign ".", .word "name", .word "AS", .word "company_name", .sign ",",
    .word "a", .sign ".", .word "additional_info", .sign ",",
    .word "a", .sign ".", .word "archived", .sign ",",
    .word "a", .sign ".", .word "created", .sign ",",
    .word "a", .sign ".", .word "modified"]

theorem tokens?_columns : tokens? Query.columns = some columnTokens := by
  unfold Query.columns columnTokens
  exact tokens?_append ((tokens?_ofList _).trans (by decide +kernel))
    ((tokens?_ofList _).trans (by decide +kernel)) (.inl ((endsFree_ofList _).trans (by decide)))

theorem readHead_columns : ∃ columns, ∀ rest,
    readHead (.word "SELECT" :: (columnTokens ++ .word "FROM" :: rest)) =
      some (.rows columns, rest) :=
  ⟨_, fun _ => rfl⟩

theorem tokens?_rowHead : tokens? ("SELECT " ++ Query.columns ++ " FROM ") =
    some ([.word "SELECT"] ++ columnTokens ++ [.word "FROM"]) :=
  tokens?_append (tokens?_append (by decide) tokens?_columns (.inl (by decide))) (by decide)
    (.inr (by decide))

def countTokens : List Token :=
  [.word "SELECT", .word "COUNT", .opening, .sign "*", .closing, .word "AS", .word "total",
    .word "FROM"]

theorem tokens?_countHead : tokens? "SELECT COUNT(*) AS total FROM " = some countTokens :=
  (tokens?_ofList _).trans (by decide)

theorem readHead_countTokens (rest : List Token) :
    readHead (countTokens ++ rest) = some (.total, rest) := rfl

/-! ## Whole statements -/

theorem read_of_parts {st : Statement} {head : Head} {schema : String} {hs ts : List Token}
    {items rest₁ rest₂ rest₃ : List Item} {c : Condition} {order : List SortClause}
    {limit : Option Nat} {offset : Nat}
    (htokens : tokens? st.sql = some (hs ++ (.quoted schema :: joinTokens schema ++ ts)))
    (hhead : ∀ rest, readHead (hs ++ rest) = some (head, rest))
    (hitems : Nests st.parameters ts items)
    (hwhere : readWhere st.parameters items = some (c, rest₁))
    (horder : readOrder rest₁ = some (order, rest₂)) (hlimit : readLimit rest₂ = (limit, rest₃))
    (hoffset : readOffset rest₃ = (offset, [])) :
    read st = some ⟨head, schema, c, order, limit, offset⟩ := by
  rw [read, htokens]
  simp only [Option.bind_eq_bind, Option.bind_some, hhead, readTables_joinTokens,
    nest_of_nests hitems, hwhere, horder, hlimit, hoffset]
  rfl

/-- A head, the tables and the clauses behind them are scanned apart. -/
theorem tokens?_statement {q : Query} {head tables clauses : String} {hs ts : List Token}
    (hhead : tokens? head = some hs) (hend : endsFree head = true)
    (htables : q.fromClause = .ok tables) (hts : tokens? clauses = some ts)
    (hstart : startsFree clauses = true) :
    tokens? (head ++ (tables ++ clauses)) =
      some (hs ++ (.quoted q.schema :: joinTokens q.schema ++ ts)) :=
  tokens?_append hhead (tokens?_append (tokens?_fromClause htables) hts (.inr hstart)) (.inl hend)

variable {q : Query} {st : Statement}

/-- The statement for the rows reads as a selection with the truth of the predicate, the order and
the window of its query. -/
theorem read_rowStatement (h : q.rowStatement = .ok st) : ∃ columns c,
    read st = some ⟨.rows columns, q.schema, c, (renderedOrder q).map readBack,
      q.window.limit.map UInt64.toNat, q.window.offset.toNat⟩ ∧
    ∀ a, c.truth a = q.predicate.truth a := by
  obtain ⟨_, -, h⟩ := bind_eq_ok_iff.mp h
  obtain ⟨tables, htables, h⟩ := bind_eq_ok_iff.mp h
  cases h
  obtain ⟨columns, hhead⟩ := readHead_columns
  obtain ⟨ws, whereItems, c, hws, hwhere, hreadWhere, htruth⟩ := reads_whereClause q
  obtain ⟨os, orderItems, hos, horder, hat, hreadOrder⟩ := reads_orderClause q q.parameters
  obtain ⟨hwindow, hstart⟩ := tokens?_windowClause q.window
  obtain ⟨hatWindow, rest, hlimit, hoffset⟩ := reads_windowClause q.window
  have hstartOrder : startsFree (" ORDER BY " ++ q.orderClause ++ Query.windowClause q.window) =
      true := by
    rw [String.append_assoc]
    exact startsFree_append (by decide) (by decide)
  have hclauses : tokens? (q.whereClause ++ (" ORDER BY " ++ q.orderClause ++
      Query.windowClause q.window)) = some (ws ++ (os ++ windowTokens q.window)) :=
    tokens?_append hws (tokens?_append hos hwindow (.inr hstart)) (.inr hstartOrder)
  have hitems : Nests q.parameters (ws ++ (os ++ windowTokens q.window))
      (whereItems ++ (orderItems ++ (windowTokens q.window).map .token)) :=
    hwhere.append (horder.append (nests_windowTokens q.window _))
  have htokens := tokens?_statement tokens?_rowHead (endsFree_append (by decide) (by decide))
    htables hclauses (startsFree_append_of_startsFree (startsFree_whereClause q) hstartOrder)
  simp only [← String.append_assoc] at htokens
  have hread : ∀ rest, readHead ([.word "SELECT"] ++ columnTokens ++ [.word "FROM"] ++ rest) =
      some (.rows columns, rest) := by
    intro rest
    rw [List.append_assoc, List.append_assoc]
    exact hhead rest
  exact ⟨columns, c, read_of_parts htokens hread hitems (hreadWhere _ (hat.append hatWindow))
    (hreadOrder _ hatWindow) hlimit hoffset, htruth⟩

/-- The statement for the number of rows reads as a selection with the truth of the predicate, whose
window leaves nothing out. -/
theorem read_countStatement (h : q.countStatement = .ok st) : ∃ c,
    read st = some ⟨.total, q.schema, c, [], none, 0⟩ ∧
    ∀ a, c.truth a = q.predicate.truth a := by
  obtain ⟨_, -, h⟩ := bind_eq_ok_iff.mp h
  obtain ⟨tables, htables, h⟩ := bind_eq_ok_iff.mp h
  cases h
  obtain ⟨ws, items, c, hws, hitems, hreadWhere, htruth⟩ := reads_whereClause q
  have htokens := tokens?_statement tokens?_countHead ((endsFree_ofList _).trans (by decide))
    htables hws (startsFree_whereClause q)
  rw [← String.append_assoc] at htokens
  have hread := hreadWhere [] rfl
  rw [List.append_nil] at hread
  exact ⟨c, read_of_parts htokens readHead_countTokens hitems hread rfl rfl rfl, htruth⟩

end AccountRegistry.Sql
