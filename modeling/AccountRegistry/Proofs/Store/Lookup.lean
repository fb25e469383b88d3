import AccountRegistry.Proofs.Store.History
import AccountRegistry.Proofs.Store.Visibility

/-! # Lookups

A lookup asks for the active accounts with one value in one field. It finds all of them, in the
order of its query, or the first of them. Companies are compared by the texts of their identifiers,
which tell identifiers apart.
-/

namespace AccountRegistry

namespace MemoryStore

/-! ## Values looked up -/

theorem truth_id_eq (a : Account) (id : Uuid) :
    Condition.truth a (.compare .id .eq (.uuid id)) = some true ↔ a.id = id := by
  have htruth : Condition.truth a (.compare .id .eq (.uuid id)) =
      some (a.id.compare id == .eq) := rfl
  rw [htruth, Option.some.injEq, beq_iff_eq, Uuid.compare_eq_iff]

/-- A field of texts is compared with a text. -/
theorem truth_text_eq {a : Account} {f : Field} {s : String} (h : a.get f = .text s)
    (t : String) : Condition.truth a (.compare f .eq (.text t)) = some true ↔ s = t := by
  have htruth : Condition.truth a (.compare f .eq (.text t)) =
      some (compare s t == .eq) := by
    rw [Condition.truth, h]
    rfl
  rw [htruth, Option.some.injEq, beq_iff_eq, Std.compare_eq_iff_eq]

variable {s : MemoryStore}

theorem mem_select_lookup {c : Condition} {q : Query}
    (hq : q.conditions = Query.active.conditions ++ [c]) {a : Account} :
    a ∈ select s.rows q ↔ s.Shows a ∧ c.truth a = some true := by
  rw [mem_select, Condition.matches_iff, Query.truth_predicate, hq, Truth.all_eq_true_iff,
    List.forall_mem_map, List.forall_mem_append, List.forall_mem_singleton, Shows, and_assoc]
  have hactive : (∀ c ∈ Query.active.conditions, c.truth a = some true) ↔ a.archived = false :=
    List.forall_mem_singleton.trans (truth_archived_eq a false)
  rw [hactive]

theorem mem_select_byId {id : Uuid} {a : Account} :
    a ∈ select s.rows (.byId id) ↔ s.Shows a ∧ a.id = id := by
  rw [← truth_id_eq]
  exact mem_select_lookup rfl

theorem mem_select_byNumber {number : String} {a : Account} :
    a ∈ select s.rows (.byNumber number) ↔ s.Shows a ∧ a.number.text = number := by
  rw [← truth_text_eq (f := .number) rfl]
  exact mem_select_lookup rfl

theorem mem_fetch_byCompany {id : Uuid} {a : Account} :
    a ∈ s.fetch (.byCompany id) ↔ s.Shows a ∧ a.companyId = id := by
  have hall : s.fetch (.byCompany id) = select s.rows (.byCompany id) := rfl
  rw [hall, ← Uuid.text_inj, ← truth_text_eq (f := .companyId) rfl]
  exact mem_select_lookup rfl

/-! ## The first row -/

/-- A window of one row shows the first one. -/
theorem head?_fetch_one {q : Query} (h : q.window = ⟨some 1, 0⟩) :
    (s.fetch q).head? = (select s.rows q).head? := by
  rw [fetch, h]
  change ((select s.rows q).drop 0 |>.take 1).head? = _
  rw [List.drop_zero, List.head?_take, if_neg (by decide)]

/-- Without clauses the first row is the one with the least identifier. -/
theorem head?_select_eq_some_iff {q : Query} (h : q.order = []) {a : Account} :
    (select s.rows q).head? = some a ↔
      a ∈ select s.rows q ∧ ∀ b ∈ select s.rows q, a.id.toNat ≤ b.id.toNat := by
  have hsorted : (select s.rows q).Pairwise fun a b => a.id.toNat < b.id.toNat := by
    refine (pairwise_select s.distinct q).imp fun {a b} hab => ?_
    rw [h] at hab
    exact Nat.compare_eq_lt.mp hab
  cases hrows : select s.rows q with
  | nil => simp
  | cons b rest =>
    rw [hrows, List.pairwise_cons] at hsorted
    rw [List.head?_cons, Option.some.injEq]
    constructor
    · rintro rfl
      refine ⟨List.mem_cons_self, List.forall_mem_cons.mpr ⟨le_rfl, fun c hc => ?_⟩⟩
      exact (hsorted.1 c hc).le
    · rintro ⟨ha, hleast⟩
      have hle := hleast b List.mem_cons_self
      rcases List.mem_cons.mp ha with rfl | ha
      · rfl
      · exact absurd (hsorted.1 a ha) (not_lt.mpr hle)

/-- Rows of a company come in the order of their last change, the latest first. -/
theorem precedes_byCompany_iff {id : Uuid} {a b : Account} :
    Precedes (Query.byCompany id).order a b ↔ b.modified.nanos < a.modified.nanos ∨
      b.modified.nanos = a.modified.nanos ∧ a.id.toNat < b.id.toNat := by
  have horder : compareRows a b (Query.byCompany id).order =
      compare b.modified.nanos a.modified.nanos := by
    rw [show (Query.byCompany id).order = [.ofField .modified .desc] from rfl, compareRows_cons,
      SortClause.compare_desc rfl]
    exact Ordering.then_eq
  rw [precedes_iff, horder, Std.compare_eq_iff_eq, Int.compare_eq_lt]
  exact or_congr_right (and_congr_right' Nat.compare_eq_lt)

/-! ## What is found -/

theorem head?_byId_eq_some_iff {id : Uuid} {a : Account} :
    (select s.rows (.byId id)).head? = some a ↔ s.Shows a ∧ a.id = id := by
  rw [head?_select_eq_some_iff rfl, mem_select_byId]
  refine and_iff_left_of_imp ?_
  rintro ⟨-, rfl⟩ b hb
  rw [(mem_select_byId.mp hb).2]

theorem head?_byNumber_eq_some_iff {number : String} {a : Account} :
    (select s.rows (.byNumber number)).head? = some a ↔
      (s.Shows a ∧ a.number.text = number) ∧
        ∀ b, s.Shows b → b.number.text = number → a.id.toNat ≤ b.id.toNat := by
  rw [head?_select_eq_some_iff rfl]
  simp only [mem_select_byNumber, and_imp]

theorem findById_eq (s : MemoryStore) (id : Uuid) :
    s.source.findById id = .ok (select s.rows (.byId id)).head? := by
  rw [← head?_fetch_one rfl]
  rfl

/-- An active account is found by its identifier. -/
theorem findById_of_shows {a : Account} (h : s.Shows a) :
    s.source.findById a.id = .ok (some a) := by
  rw [findById_eq, head?_byId_eq_some_iff.mpr ⟨h, rfl⟩]

theorem findByNumber_eq (s : MemoryStore) (number : String) :
    s.source.findByNumber number = .ok (select s.rows (.byNumber number)).head? := by
  rw [← head?_fetch_one rfl]
  rfl

/-- Lookups never fail. One by identifier finds the active account with it, and one by number the
active account with the least identifier among those with the number; each finds nothing only if
there is no such account. One by company finds all active accounts of the company, each once, the
latest changed first and ties in the order of identifiers. -/
theorem lookups_find_exactly (s : MemoryStore) :
    (∀ id, ∃ found, s.source.findById id = .ok found ∧
      ∀ a, found = some a ↔ s.Shows a ∧ a.id = id) ∧
    (∀ number, ∃ found, s.source.findByNumber number = .ok found ∧
      (found = none ↔ ∀ a, s.Shows a → a.number.text ≠ number) ∧
      ∀ a, found = some a ↔ (s.Shows a ∧ a.number.text = number) ∧
        ∀ b, s.Shows b → b.number.text = number → a.id.toNat ≤ b.id.toNat) ∧
    (∀ id, ∃ rows, s.source.listByCompany id = .ok rows ∧ rows.Nodup ∧
      (∀ a, a ∈ rows ↔ s.Shows a ∧ a.companyId = id) ∧
      rows.Pairwise fun a b => b.modified.nanos < a.modified.nanos ∨
        b.modified.nanos = a.modified.nanos ∧ a.id.toNat < b.id.toNat) ∧
    ∀ u v : Uuid, u.text = v.text ↔ u = v := by
  refine ⟨fun id => ?_, fun number => ?_, fun id => ?_, fun u v => Uuid.text_inj⟩
  · exact ⟨_, s.findById_eq id, fun a => head?_byId_eq_some_iff⟩
  · refine ⟨_, s.findByNumber_eq number, ?_, fun a => head?_byNumber_eq_some_iff⟩
    rw [List.head?_eq_none_iff, List.eq_nil_iff_forall_not_mem]
    simp only [mem_select_byNumber, not_and, ne_eq]
  · have hsorted := (pairwise_select s.distinct (Query.byCompany id)).imp precedes_byCompany_iff.mp
    refine ⟨_, rfl, hsorted.imp fun {a b} hab => ?_, fun a => mem_fetch_byCompany, hsorted⟩
    rintro rfl
    omega

/-- Two active accounts and an archived one have the same number. -/
theorem shared_number_is_found :
    let a := { (default : Account) with id := .ofNat 1 }
    sampleStore.source.findByNumber "00000000" = .ok (some a) := by
  intro a
  have hshows : sampleStore.Shows a := ⟨by decide, rfl⟩
  obtain ⟨-, hnumbers, -⟩ := sampleStore.lookups_find_exactly
  obtain ⟨found, hfound, -, hiff⟩ := hnumbers "00000000"
  have hleast : ∀ b ∈ sampleStore.rows, a.id.toNat ≤ b.id.toNat := by decide
  rw [hfound, (hiff a).mpr ⟨⟨hshows, rfl⟩, fun b hb _ => hleast b hb.1⟩]

end MemoryStore

end AccountRegistry
