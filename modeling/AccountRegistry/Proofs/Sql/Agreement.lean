import AccountRegistry.Proofs.Sql.Statements
import AccountRegistry.Proofs.Store.Pages

/-! # Agreement of statements and stores

The order of a rendered statement has no ties between rows with distinct identifiers, so the
statement gives one list of rows. It is the list that a store with the same rows fetches.
-/

namespace AccountRegistry.Sql

/-! ## The order of a statement -/

theorem lexicographic_eq (clauses : List SortClause) (a b : Account) :
    lexicographic clauses a b = compareRows a b clauses := by
  induction clauses with
  | nil => rfl
  | cons s rest ih =>
    rw [compareRows_cons, ← ih]
    rfl

theorem lexicographic_map_readBack (clauses : List SortClause) (a b : Account) :
    lexicographic (clauses.map readBack) a b = lexicographic clauses a b := by
  have hcompare : (fun s => (readBack s).compare a b) = fun s : SortClause => s.compare a b := by
    funext s
    rw [compare_readBack]
  rw [lexicographic, lexicographic, List.map_map]
  exact congrArg (fun f => (clauses.map f).foldr Ordering.then .eq) hcompare

/-- The last clause of a rendered order breaks ties by the identifier, or an earlier one has done
so. -/
theorem compareRows_renderedOrder (q : Query) (a b : Account) :
    compareRows a b (renderedOrder q) = rowOrder q.order a b := by
  rw [renderedOrder, compareRows_append, rowOrder, compareLex]
  split
  next h =>
    obtain ⟨s, hs, hid⟩ := List.any_eq_true.mp h
    cases ho : compareRows a b q.order with
    | eq =>
      have htie := SortClause.compare_eq_eq_iff.mp (eq_of_compareRows_eq ho hs)
      rw [beq_iff_eq.mp hid] at htie
      exact congrArg (Ordering.then .eq) htie.symm
    | lt => rfl
    | gt => rfl
  next =>
    have hid : compareRows a b [⟨.id, .asc, false⟩] = a.id.compare b.id := by
      rw [compareRows_cons, SortClause.compare_asc rfl]
      exact Ordering.then_eq
    rw [hid]

theorem lexicographic_renderedOrder (q : Query) (a b : Account) :
    lexicographic ((renderedOrder q).map readBack) a b = rowOrder q.order a b := by
  rw [lexicographic_map_readBack, lexicographic_eq, compareRows_renderedOrder]

/-! ## Selected rows -/

variable {q : Query} {x : Selection}

theorem chosen_eq (hx : ∀ a, x.condition.truth a = q.predicate.truth a) (table : List Account) :
    x.chosen table = table.filter q.predicate.matches := by
  rw [Selection.chosen]
  refine List.filter_congr fun a _ => ?_
  rw [hx, Bool.eq_iff_iff, decide_eq_true_iff]
  exact Condition.matches_iff.symm

theorem shown_eq_cut (w : Window) (hlimit : x.limit = w.limit.map UInt64.toNat)
    (hoffset : x.offset = w.offset.toNat) (rows : List Account) :
    x.shown rows = MemoryStore.cut w rows := by
  rw [Selection.shown, MemoryStore.cut, hlimit, hoffset]
  cases w.limit <;> rfl

/-- The rows in the order of a rendered statement are those that a store selects. -/
theorem ordered_iff_eq_select {table rows : List Account} (h : DistinctIds table) :
    rows.Perm (table.filter q.predicate.matches) ∧ rows.Pairwise (fun a b =>
      lexicographic ((renderedOrder q).map readBack) a b ≠ .gt) ↔
      rows = MemoryStore.select table q := by
  rw [MemoryStore.eq_select_iff h]
  refine and_congr_right fun hp => ?_
  have hdistinct : DistinctIds rows := DistinctIds.perm (h.sublist List.filter_sublist) hp.symm
  constructor
  · intro hs
    refine hs.imp₂ (fun a b hle hne => ?_) hdistinct
    rw [lexicographic_renderedOrder] at hle
    exact (precedes_iff_of_ne hne).mpr hle
  · intro hs
    refine hs.imp₂ (fun a b hlt hne => ?_) hdistinct
    rw [lexicographic_renderedOrder]
    exact (precedes_iff_of_ne hne).mp hlt

theorem yields_iff_of_perm (s : MemoryStore) {table : List Account} (hp : table.Perm s.rows)
    (hhead : x.head ≠ .total) (hx : ∀ a, x.condition.truth a = q.predicate.truth a)
    (horder : x.order = (renderedOrder q).map readBack)
    (hlimit : x.limit = q.window.limit.map UInt64.toNat)
    (hoffset : x.offset = q.window.offset.toNat) (out : List Account) :
    x.Yields table out ↔ out = s.fetch q := by
  have hdistinct : DistinctIds table := DistinctIds.perm s.distinct hp.symm
  have hfetch : x.shown (MemoryStore.select table q) = s.fetch q := by
    rw [shown_eq_cut q.window hlimit hoffset, MemoryStore.select_of_perm s.distinct hp]
    rfl
  rw [Selection.Yields, chosen_eq hx, horder]
  constructor
  · rintro ⟨-, rows, hperm, hsorted, rfl⟩
    rw [(ordered_iff_eq_select hdistinct).mp ⟨hperm, hsorted⟩, hfetch]
  · rintro rfl
    obtain ⟨hperm, hsorted⟩ := (ordered_iff_eq_select (q := q) hdistinct).mpr rfl
    exact ⟨hhead, _, hperm, hsorted, hfetch.symm⟩

theorem counts_iff_of_perm (s : MemoryStore) {table : List Account} (hp : table.Perm s.rows)
    (hhead : x.head = .total) (hx : ∀ a, x.condition.truth a = q.predicate.truth a)
    (hlimit : x.limit = none) (hoffset : x.offset = 0) (n : Nat) :
    x.Counts table n ↔ n = s.count q := by
  have hlength : (x.chosen table).length = s.count q := by
    rw [chosen_eq hx, MemoryStore.count, (hp.filter _).length_eq]
    exact (MemoryStore.select_perm s.rows q).length_eq.symm
  rw [Selection.Counts, hlength]
  constructor
  · rintro ⟨-, -, -, hn⟩
    exact hn
  · intro hn
    have hnone : x.limit ≠ some 0 := by
      rw [hlimit]
      exact (Option.some_ne_none 0).symm
    exact ⟨hhead, hnone, hoffset, hn⟩

/-- Both statements of a query are read, whatever order the rows of the table are in. The first
yields what a store with these rows fetches and no other list; the second yields what it counts. -/
theorem statements_agree_with_store (s : MemoryStore) {q : Query} {rowSt countSt : Statement}
    (hrow : q.rowStatement = .ok rowSt) (hcount : q.countStatement = .ok countSt) :
    ∃ x y, read rowSt = some x ∧ read countSt = some y ∧
      ∀ table : List Account, table.Perm s.rows →
        (∀ out, x.Yields table out ↔ out = s.fetch q) ∧
        ∀ n, y.Counts table n ↔ n = s.count q := by
  obtain ⟨columns, c, hx, hc⟩ := read_rowStatement hrow
  obtain ⟨d, hy, hd⟩ := read_countStatement hcount
  refine ⟨_, _, hx, hy, fun table hp => ⟨?_, ?_⟩⟩
  · exact yields_iff_of_perm s hp nofun hc rfl rfl rfl
  · exact counts_iff_of_perm s hp rfl hd rfl rfl

/-- A negated group and a list of values, the order from the end, and one row left out. -/
def sampleQuery : Query :=
  { Query.everything with
    conditions := [.not (.any [.compare .archived .eq (.bool true), .any []]),
      .oneOf .currency [.text "EUR", .text "000"]]
    order := [⟨.id, .desc, false⟩]
    window := ⟨none, 1⟩ }

theorem sample_statements_agree : ∃ rowSt countSt x y,
    sampleQuery.rowStatement = .ok rowSt ∧ sampleQuery.countStatement = .ok countSt ∧
    read rowSt = some x ∧ read countSt = some y ∧
    MemoryStore.sampleStore.rows.Perm MemoryStore.sampleStore.rows ∧
    x.Yields MemoryStore.sampleStore.rows (MemoryStore.sampleStore.fetch sampleQuery) ∧
    y.Counts MemoryStore.sampleStore.rows 2 := by
  obtain ⟨rowSt, hrow⟩ : ∃ rowSt, sampleQuery.rowStatement = .ok rowSt := ⟨_, rfl⟩
  obtain ⟨countSt, hcount⟩ : ∃ countSt, sampleQuery.countStatement = .ok countSt := ⟨_, rfl⟩
  obtain ⟨x, y, hx, hy, h⟩ := statements_agree_with_store MemoryStore.sampleStore hrow hcount
  have htwo : MemoryStore.sampleStore.count sampleQuery = 2 := by
    rw [MemoryStore.count, MemoryStore.select, sortByClauses, sortById, List.length_mergeSort,
      List.length_mergeSort]
    decide
  obtain ⟨hyields, hcounts⟩ := h _ (.refl _)
  exact ⟨rowSt, countSt, x, y, hrow, hcount, hx, hy, .refl _, (hyields _).mpr rfl,
    (hcounts 2).mpr htwo.symm⟩

end AccountRegistry.Sql
