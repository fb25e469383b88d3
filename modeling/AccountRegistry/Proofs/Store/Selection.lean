import AccountRegistry.Proofs.Store.History
import AccountRegistry.Proofs.Store.Pages

/-! # Selected rows

Clauses compare rows totally up to ties, and identifiers break the ties. The rows that a query
selects are therefore the one ascending list of the rows that match, in whatever order a store is
gone through and its accounts were written.
-/

namespace AccountRegistry

open Std

/-- How some clauses order rows. They compare rows totally up to ties, later clauses break the ties
of earlier ones only, and a clause behind another one of its field has no say; with identifiers to
break the remaining ties, rows are in a strict total order. -/
structure OrdersRows (clauses : List SortClause) : Prop where
  refl : ∀ a, compareRows a a clauses = .eq
  swap : ∀ a b, compareRows b a clauses = (compareRows a b clauses).swap
  trans : ∀ a b c, compareRows a b clauses ≠ .gt → compareRows b c clauses ≠ .gt →
    compareRows a c clauses ≠ .gt
  append : ∀ more a b, compareRows a b (clauses ++ more) =
    (compareRows a b clauses).then (compareRows a b more)
  repeated : ∀ s ∈ clauses, ∀ t : SortClause, t.field = s.field → ∀ more a b,
    compareRows a b (clauses ++ t :: more) = compareRows a b (clauses ++ more)
  precedes_iff : ∀ a b, Precedes clauses a b ↔
    compareRows a b clauses = .lt ∨ compareRows a b clauses = .eq ∧ a.id.compare b.id = .lt
  precedes_irrefl : ∀ a, ¬ Precedes clauses a a
  precedes_trans : ∀ a b c, Precedes clauses a b → Precedes clauses b c → Precedes clauses a c
  precedes_total : ∀ a b, a.id ≠ b.id → Precedes clauses a b ∨ Precedes clauses b a

theorem ordersRows (clauses : List SortClause) : OrdersRows clauses where
  refl a := @ReflCmp.compare_self _ (fun a b => compareRows a b clauses) _ a
  swap a b := compareRows_swap a b clauses
  trans a b c hab hbc := by
    simpa using ne_gt_trans (fun a b => compareRows a b clauses) a b c (by simpa) (by simpa)
  append more a b := compareRows_append a b clauses more
  repeated s hs t hfield more a b := compareRows_repeated hs hfield.symm more a b
  precedes_iff a b := AccountRegistry.precedes_iff
  precedes_irrefl a h := OrientedCmp.not_lt_of_lt h h
  precedes_trans a b c hab hbc := TransCmp.lt_trans hab hbc
  precedes_total a b h := precedes_or_precedes h clauses

namespace MemoryStore

/-- Selected rows depend on the accounts of a store only, not on the order in which they came. -/
theorem select_congr {s t : MemoryStore} {rows rows' : List Account} (hs : rows.Perm s.rows)
    (ht : rows'.Perm t.rows) (h : ∀ a, a ∈ s.rows ↔ a ∈ t.rows) (q : Query) :
    select rows q = select rows' q := by
  rw [select_of_perm s.distinct hs, select_of_perm t.distinct ht]
  exact select_of_perm t.distinct (perm_of_mem_iff h) q

theorem mem_run_congr {history history' : List StoreStep}
    (hids : ∀ a ∈ written history, ∀ b ∈ written history, a.id = b.id → a = b)
    (h : (written history').Perm (written history)) (a : Account) :
    a ∈ (run history).rows ↔ a ∈ (run history').rows := by
  rw [(reflects_run history).rows, (reflects_run history').rows, lastWrite_iff_mem hids,
    lastWrite_iff_mem (by simpa only [h.mem_iff] using hids), h.mem_iff]

/-- Clauses order rows strictly once identifiers break the ties. What a query selects, in whatever
order it goes through a store, is the matching rows in this order; and stores whose accounts were
written in different orders, no two of them under one identifier, give the same rows. -/
theorem rows_strictly_ordered (clauses : List SortClause) (s : MemoryStore) (q : Query) :
    OrdersRows clauses ∧
    (∀ table : List Account, table.Perm s.rows →
      (select table q).Perm (s.rows.filter q.predicate.matches) ∧
      (select table q).Pairwise (Precedes q.order) ∧ select table q = select s.rows q) ∧
    ∀ (history history' : List StoreStep) (table table' : List Account),
      (∀ a ∈ written history, ∀ b ∈ written history, a.id = b.id → a = b) →
      (written history').Perm (written history) →
      table.Perm (run history).rows → table'.Perm (run history').rows →
      select table q = select table' q := by
  refine ⟨ordersRows clauses, fun table htable => ?_, ?_⟩
  · rw [select_of_perm s.distinct htable]
    exact ⟨select_perm s.rows q, pairwise_select s.distinct q, rfl⟩
  · intro history history' table table' hids h htable htable'
    exact select_congr htable htable' (mem_run_congr hids h) q

theorem rows_strictly_ordered_twice :
    let a : Account := default
    let b : Account := { a with id := ⟨1⟩ }
    let q := Query.active.orderBy (.ofField .modified .desc)
    sampleStore.rows.reverse.Perm sampleStore.rows ∧
    select sampleStore.rows.reverse q = select sampleStore.rows q ∧
    (∀ c ∈ [a, b], ∀ d ∈ [a, b], c.id = d.id → c = d) ∧ [b, a].Perm [a, b] ∧
    select (run [.insertAll [a, b]]).rows q = select (run [.insert b, .insert a]).rows q := by
  intro a b q
  have hrows : sampleStore.rows.reverse.Perm sampleStore.rows := List.reverse_perm _
  have hids : ∀ c ∈ [a, b], ∀ d ∈ [a, b], c.id = d.id → c = d := by decide
  have hperm : [b, a].Perm [a, b] := List.Perm.swap a b []
  obtain ⟨-, hselect, hhistories⟩ := rows_strictly_ordered q.order sampleStore q
  exact ⟨hrows, (hselect _ hrows).2.2, hids, hperm,
    hhistories [.insertAll [a, b]] [.insert b, .insert a] _ _ hids hperm (.refl _) (.refl _)⟩

end MemoryStore

end AccountRegistry
