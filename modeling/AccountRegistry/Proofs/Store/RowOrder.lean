import AccountRegistry.Proofs.Uuid
import AccountRegistry.Store.Memory

/-! # Row order

Clauses order the rows of a store totally up to ties, and identifiers break the ties. Selected rows
ascend strictly in this order, which determines their list.
-/

namespace AccountRegistry

open Std

section Sorting

variable {α : Type} (cmp : α → α → Ordering)

theorem ne_gt_trans [TransCmp cmp] (a b c : α) (hab : (cmp a b != .gt) = true)
    (hbc : (cmp b c != .gt) = true) : (cmp a c != .gt) = true := by
  simp only [bne_iff_ne, ← Ordering.isLE_iff_ne_gt] at *
  exact TransCmp.isLE_trans hab hbc

theorem ne_gt_total [OrientedCmp cmp] (a b : α) : (cmp a b != .gt || cmp b a != .gt) = true := by
  have h : cmp b a = (cmp a b).swap := OrientedCmp.eq_swap
  rw [h]
  cases cmp a b <;> rfl

end Sorting

instance : TransCmp Uuid.compare := inferInstanceAs (TransCmp (compareOn Uuid.toNat))

instance : TransCmp Timestamp.compare := inferInstanceAs (TransCmp (compareOn Timestamp.nanos))

theorem Uuid.compare_eq_iff {u v : Uuid} : u.compare v = .eq ↔ u = v := by
  rw [Uuid.compare, Std.compare_eq_iff_eq, Uuid.toNat_inj]

/-! ## Fields -/

@[simp] theorem Account.get_ne_null (a : Account) (f : Field) : (a.get f == .null) = false := by
  cases f <;> rfl

/-- The order of the values of a field. -/
def Field.compare (f : Field) (a b : Account) : Ordering := ((a.get f).order? (b.get f)).getD .eq

instance (f : Field) : TransCmp f.compare := by
  cases f with
  | id => exact inferInstanceAs (TransCmp (compareOn fun a : Account => a.id.toNat))
  | kind => exact inferInstanceAs (TransCmp (compareOn fun a : Account => a.kind.name))
  | currency => exact inferInstanceAs (TransCmp (compareOn fun a : Account => a.currency.text))
  | number => exact inferInstanceAs (TransCmp (compareOn fun a : Account => a.number.text))
  | companyId => exact inferInstanceAs (TransCmp (compareOn fun a : Account => a.companyId.text))
  | companyName => exact inferInstanceAs (TransCmp (compareOn fun a : Account => a.companyName))
  | archived => exact inferInstanceAs (TransCmp (compareOn fun a : Account => a.archived))
  | created => exact inferInstanceAs (TransCmp (compareOn fun a : Account => a.created.nanos))
  | modified => exact inferInstanceAs (TransCmp (compareOn fun a : Account => a.modified.nanos))

/-- The order that one clause puts on rows. -/
def SortClause.compare (s : SortClause) (a b : Account) : Ordering :=
  s.order (a.get s.field) (b.get s.field)

theorem SortClause.compare_asc {s : SortClause} (h : s.direction = .asc) :
    s.compare = s.field.compare := by
  funext a b
  simp [SortClause.compare, SortClause.order, h, Field.compare]

theorem SortClause.compare_desc {s : SortClause} (h : s.direction = .desc) :
    s.compare = fun a b => s.field.compare b a := by
  funext a b
  have hs : s.field.compare b a = (s.field.compare a b).swap := OrientedCmp.eq_swap
  rw [hs]
  simp [SortClause.compare, SortClause.order, h, Field.compare]

instance (s : SortClause) : TransCmp s.compare := by
  cases h : s.direction with
  | asc =>
    rw [SortClause.compare_asc h]
    infer_instance
  | desc =>
    rw [SortClause.compare_desc h]
    exact TransCmp.opposite

/-- Rows tie under a clause if they tie in its field, whatever its direction. -/
theorem SortClause.compare_eq_eq_iff {s : SortClause} {a b : Account} :
    s.compare a b = .eq ↔ s.field.compare a b = .eq := by
  cases h : s.direction with
  | asc => rw [SortClause.compare_asc h]
  | desc =>
    rw [SortClause.compare_desc h]
    exact OrientedCmp.eq_comm

/-! ## Rows -/

theorem compareRows_cons (a b : Account) (s : SortClause) (rest : List SortClause) :
    compareRows a b (s :: rest) = (s.compare a b).then (compareRows a b rest) := by
  rw [compareRows, SortClause.compare]
  cases s.order (a.get s.field) (b.get s.field) <;> rfl

/-- Later clauses break the ties of earlier ones. -/
theorem compareRows_append (a b : Account) (xs ys : List SortClause) :
    compareRows a b (xs ++ ys) = (compareRows a b xs).then (compareRows a b ys) := by
  induction xs with
  | nil => rfl
  | cons s xs ih =>
    rw [List.cons_append, compareRows_cons, compareRows_cons, ih]
    cases s.compare a b <;> rfl

theorem eq_of_compareRows_eq {a b : Account} {clauses : List SortClause}
    (h : compareRows a b clauses = .eq) {s : SortClause} (hs : s ∈ clauses) :
    s.compare a b = .eq := by
  induction clauses with
  | nil => cases hs
  | cons t rest ih =>
    rw [compareRows_cons] at h
    obtain ⟨ht, hrest⟩ := Ordering.then_eq_eq.mp h
    rcases List.mem_cons.mp hs with rfl | hs
    · exact ht
    · exact ih hrest hs

/-- A clause has no say behind another one of the same field. -/
theorem compareRows_repeated {xs : List SortClause} {s t : SortClause} (ht : t ∈ xs)
    (hfield : t.field = s.field) (ys : List SortClause) (a b : Account) :
    compareRows a b (xs ++ s :: ys) = compareRows a b (xs ++ ys) := by
  rw [compareRows_append, compareRows_append, compareRows_cons]
  cases hxs : compareRows a b xs with
  | eq =>
    have htie := SortClause.compare_eq_eq_iff.mp (eq_of_compareRows_eq hxs ht)
    rw [hfield] at htie
    rw [SortClause.compare_eq_eq_iff.mpr htie]
    rfl
  | lt | gt => rfl

/-- Orders look at nothing but the fields of their clauses. -/
theorem compareRows_congr {a a' b b' : Account} {clauses : List SortClause}
    (h : ∀ s ∈ clauses, a.get s.field = a'.get s.field ∧ b.get s.field = b'.get s.field) :
    compareRows a b clauses = compareRows a' b' clauses := by
  induction clauses with
  | nil => rfl
  | cons s rest ih =>
    obtain ⟨⟨ha, hb⟩, hrest⟩ := List.forall_mem_cons.mp h
    rw [compareRows, compareRows, ha, hb, ih hrest]

instance (clauses : List SortClause) : TransCmp fun a b => compareRows a b clauses := by
  induction clauses with
  | nil => exact { eq_swap := rfl, isLE_trans := fun h _ => h }
  | cons s rest ih =>
    simp only [compareRows_cons]
    exact inferInstanceAs (TransCmp (compareLex s.compare fun a b => compareRows a b rest))

theorem compareRows_swap (a b : Account) (clauses : List SortClause) :
    compareRows b a clauses = (compareRows a b clauses).swap :=
  @OrientedCmp.eq_swap _ (fun a b => compareRows a b clauses) _ b a

instance : TransCmp fun a b : Account => a.id.compare b.id :=
  inferInstanceAs (TransCmp (compareOn fun a : Account => a.id.toNat))

/-- The order of some clauses, with ties broken by the identifier. -/
def rowOrder (clauses : List SortClause) : Account → Account → Ordering :=
  compareLex (fun a b => compareRows a b clauses) fun a b => a.id.compare b.id

instance (clauses : List SortClause) : TransCmp (rowOrder clauses) :=
  inferInstanceAs (TransCmp (compareLex _ _))

/-- One row comes strictly before another. -/
def Precedes (clauses : List SortClause) (a b : Account) : Prop := rowOrder clauses a b = .lt

theorem precedes_iff {clauses : List SortClause} {a b : Account} :
    Precedes clauses a b ↔
      compareRows a b clauses = .lt ∨ compareRows a b clauses = .eq ∧ a.id.compare b.id = .lt := by
  rw [Precedes, rowOrder, compareLex]
  cases compareRows a b clauses <;> simp [Ordering.then]

/-- Further clauses and the identifier have a say only where rows tie. -/
theorem precedes_append {xs ys : List SortClause} {a b : Account} :
    Precedes (xs ++ ys) a b ↔
      compareRows a b xs = .lt ∨ compareRows a b xs = .eq ∧ Precedes ys a b := by
  rw [precedes_iff, precedes_iff, compareRows_append]
  cases compareRows a b xs <;> simp [Ordering.then]

/-- Rows with distinct identifiers do not tie. -/
theorem rowOrder_ne_eq {a b : Account} (h : a.id ≠ b.id) (clauses : List SortClause) :
    rowOrder clauses a b ≠ .eq := by
  rw [rowOrder, compareLex]
  intro he
  exact h (Uuid.compare_eq_iff.mp (Ordering.then_eq_eq.mp he).2)

theorem precedes_iff_of_ne {clauses : List SortClause} {a b : Account} (h : a.id ≠ b.id) :
    Precedes clauses a b ↔ rowOrder clauses a b ≠ .gt := by
  have hne := rowOrder_ne_eq h clauses
  rw [Precedes]
  cases ho : rowOrder clauses a b <;> simp_all

theorem precedes_or_precedes {a b : Account} (h : a.id ≠ b.id) (clauses : List SortClause) :
    Precedes clauses a b ∨ Precedes clauses b a := by
  by_cases hgt : rowOrder clauses a b = .gt
  · exact .inr (OrientedCmp.lt_of_gt hgt)
  · exact .inl ((precedes_iff_of_ne h).mpr hgt)

/-- Rows that follow each other in an order are known by their set. -/
theorem eq_of_precedes {clauses : List SortClause} {l l' : List Account} (hp : l.Perm l')
    (hl : l.Pairwise (Precedes clauses)) (hl' : l'.Pairwise (Precedes clauses)) : l = l' := by
  refine hp.eq_of_pairwise (fun a b _ _ hab hba => ?_) hl hl'
  exact absurd hba (OrientedCmp.not_lt_of_lt hab)

/-! ## Sorting -/

/-- No two rows have the same identifier. -/
def DistinctIds (rows : List Account) : Prop := rows.Pairwise fun a b => a.id ≠ b.id

theorem DistinctIds.perm {l l' : List Account} (h : DistinctIds l) (hp : l.Perm l') :
    DistinctIds l' :=
  (hp.pairwise_iff fun h => Ne.symm h).mp h

theorem pairwise_sortById {rows : List Account} (h : DistinctIds rows) :
    (sortById rows).Pairwise fun a b => a.id.compare b.id = .lt := by
  have hd : DistinctIds (sortById rows) := h.perm (List.mergeSort_perm _ _).symm
  have hs := List.pairwise_mergeSort (ne_gt_trans fun a b : Account => a.id.compare b.id)
    (ne_gt_total _) rows
  refine hs.imp₂ (fun a b hle hne => ?_) hd
  rw [bne_iff_ne] at hle
  have hne : a.id.compare b.id ≠ .eq := fun he => hne (Uuid.compare_eq_iff.mp he)
  cases ho : a.id.compare b.id <;> simp_all

/-- A stable sort of rows that ascend by identifier. -/
theorem pairwise_sortByClauses (clauses : List SortClause) {rows : List Account}
    (h : rows.Pairwise fun a b => a.id.compare b.id = .lt) :
    (sortByClauses clauses rows).Pairwise (Precedes clauses) := by
  induction rows with
  | nil => simp [sortByClauses]
  | cons a rows ih =>
    obtain ⟨ha, hrows⟩ := List.pairwise_cons.mp h
    have hsorted : (sortByClauses clauses (a :: rows)).Pairwise
        fun b c => (compareRows b c clauses != .gt) = true :=
      List.pairwise_mergeSort (ne_gt_trans fun b c => compareRows b c clauses) (ne_gt_total _) _
    obtain ⟨before, after, hs, ht, hb⟩ := List.mergeSort_cons
      (ne_gt_trans fun b c => compareRows b c clauses) (ne_gt_total _) a rows
    have hrest : (before ++ after).Pairwise (Precedes clauses) := ht ▸ ih hrows
    rw [sortByClauses, hs] at hsorted ⊢
    obtain ⟨hb₁, ha₁, hba⟩ := List.pairwise_append.mp hrest
    obtain ⟨-, ha₂, -⟩ := List.pairwise_append.mp hsorted
    refine List.pairwise_append.mpr ⟨hb₁, List.pairwise_cons.mpr ⟨fun c hc => ?_, ha₁⟩, ?_⟩
    · have hle := (List.pairwise_cons.mp ha₂).1 c hc
      have hmem : c ∈ rows :=
        (List.mergeSort_perm rows _).mem_iff.mp (ht ▸ List.mem_append_right before hc)
      rw [precedes_iff]
      cases ho : compareRows a c clauses <;> simp_all
    · rintro b hmem c hc
      rcases List.mem_cons.mp hc with rfl | hc
      · have hgt : compareRows c b clauses = .gt := by simpa using hb b hmem
        exact precedes_iff.mpr (.inl (by rw [compareRows_swap c b, hgt]; rfl))
      · exact hba b hmem c hc

/-! ## Selected rows -/

namespace MemoryStore

theorem select_perm (rows : List Account) (q : Query) :
    (select rows q).Perm (rows.filter q.predicate.matches) :=
  (List.mergeSort_perm _ _).trans (List.mergeSort_perm _ _)

theorem mem_select {rows : List Account} {q : Query} {a : Account} :
    a ∈ select rows q ↔ a ∈ rows ∧ q.predicate.matches a = true := by
  rw [(select_perm rows q).mem_iff, List.mem_filter]

theorem pairwise_select {rows : List Account} (h : DistinctIds rows) (q : Query) :
    (select rows q).Pairwise (Precedes q.order) :=
  pairwise_sortByClauses q.order (pairwise_sortById (h.sublist List.filter_sublist))

/-- The selected rows are the only list of the matching rows that ascends in the order of the
query. -/
theorem eq_select_iff {rows l : List Account} (h : DistinctIds rows) (q : Query) :
    l = select rows q ↔
      l.Perm (rows.filter q.predicate.matches) ∧ l.Pairwise (Precedes q.order) := by
  constructor
  · rintro rfl
    exact ⟨select_perm rows q, pairwise_select h q⟩
  · rintro ⟨hp, hl⟩
    exact eq_of_precedes (hp.trans (select_perm rows q).symm) hl (pairwise_select h q)

/-- Selected rows do not depend on how the rows are arranged. -/
theorem select_of_perm {table rows : List Account} (h : DistinctIds rows) (hp : table.Perm rows)
    (q : Query) : select table q = select rows q := by
  refine (eq_select_iff h q).mpr ⟨?_, pairwise_select (h.perm hp.symm) q⟩
  exact (select_perm table q).trans (hp.filter _)

end MemoryStore

end AccountRegistry
