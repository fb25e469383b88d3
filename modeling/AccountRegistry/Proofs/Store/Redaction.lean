import AccountRegistry.Proofs.Condition.Atoms
import AccountRegistry.Proofs.Store.RowOrder
import AccountRegistry.Service.View
import AccountRegistry.Store.Source

/-! # Hidden fields

The number of an account is hidden, and its bank details unless its type shows them. A query that
looks at no number selects the same rows of two stores that differ in hidden fields only, and what
is shown of these rows is the same.
-/

namespace AccountRegistry

/-! ## Accounts -/

namespace Account

/-- Two accounts that differ at most in hidden fields. -/
structure Alike (a b : Account) : Prop where
  id : a.id = b.id
  kind : a.kind = b.kind
  currency : a.currency = b.currency
  companyId : a.companyId = b.companyId
  companyName : a.companyName = b.companyName
  archived : a.archived = b.archived
  created : a.created = b.created
  modified : a.modified = b.modified
  bankInfo : a.kind = .type1 → a.bankInfo = b.bankInfo

/-- An account with its hidden fields blanked. -/
def redact (a : Account) : Account :=
  { a with number := default, bankInfo := if a.kind = .type1 then a.bankInfo else none }

theorem alike_iff {a b : Account} : a.Alike b ↔ a.redact = b.redact := by
  constructor
  · rintro ⟨hid, hkind, hcurrency, hcompany, hname, harchived, hcreated, hmodified, hbank⟩
    rw [redact, redact, hid, hkind, hcurrency, hcompany, hname, harchived, hcreated, hmodified]
    grind
  · intro h
    simp only [redact, mk.injEq] at h
    grind [Alike]

@[simp] theorem view_redact (a : Account) : a.redact.view = a.view := by
  unfold redact view
  cases a.kind <;> rfl

theorem get_redact (a : Account) {f : Field} (h : f ≠ .number) : a.redact.get f = a.get f := by
  cases f <;> first | rfl | exact absurd rfl h

end Account

/-! ## Selected rows -/

namespace Query

/-- A query that looks at no account number. -/
structure AvoidsNumber (q : Query) : Prop where
  conditions : ∀ x ∈ Condition.atomsAll q.conditions, x.field ≠ .number
  order : ∀ s ∈ q.order, s.field ≠ .number

theorem AvoidsNumber.matches_redact {q : Query} (h : q.AvoidsNumber) (a : Account) :
    q.predicate.matches a.redact = q.predicate.matches a := by
  rw [Bool.eq_iff_iff, Condition.matches_iff, Condition.matches_iff, Condition.truth_congr]
  intro x hx
  rw [predicate, Condition.atoms_conjunction] at hx
  exact a.get_redact (h.conditions x hx)

end Query

namespace MemoryStore

theorem sortById_redact (rows : List Account) :
    sortById (rows.map Account.redact) = (sortById rows).map Account.redact := by
  refine (List.map_mergeSort fun a _ b _ => ?_).symm
  rw [show a.redact.id = a.id from rfl, show b.redact.id = b.id from rfl]

theorem sortByClauses_redact {clauses : List SortClause} (h : ∀ s ∈ clauses, s.field ≠ .number)
    (rows : List Account) :
    sortByClauses clauses (rows.map Account.redact) =
      (sortByClauses clauses rows).map Account.redact := by
  refine (List.map_mergeSort fun a _ b _ => ?_).symm
  rw [compareRows_congr fun s hs => ⟨(a.get_redact (h s hs)).symm, (b.get_redact (h s hs)).symm⟩]

theorem select_redact {q : Query} (h : q.AvoidsNumber) (rows : List Account) :
    select (rows.map Account.redact) q = (select rows q).map Account.redact := by
  have hmatches : q.predicate.matches ∘ Account.redact = q.predicate.matches :=
    funext h.matches_redact
  rw [select, select, List.filter_map, hmatches, sortById_redact, sortByClauses_redact h.order]

/-- Two stores of the same accounts, up to hidden fields. -/
structure Alike (s t : MemoryStore) : Prop where
  left : ∀ a ∈ s.rows, ∃ b ∈ t.rows, a.Alike b
  right : ∀ b ∈ t.rows, ∃ a ∈ s.rows, a.Alike b

theorem distinctIds_redact (s : MemoryStore) : DistinctIds (s.rows.map Account.redact) :=
  List.pairwise_map.mpr s.distinct

theorem Alike.perm_redact {s t : MemoryStore} (h : s.Alike t) :
    (s.rows.map Account.redact).Perm (t.rows.map Account.redact) := by
  have hnodup (u : MemoryStore) : (u.rows.map Account.redact).Nodup :=
    u.distinctIds_redact.imp fun hid he => hid (congrArg _ he)
  rw [List.perm_ext_iff_of_nodup (hnodup s) (hnodup t)]
  intro c
  rw [List.mem_map, List.mem_map]
  constructor
  · rintro ⟨a, ha, rfl⟩
    obtain ⟨b, hb, hab⟩ := h.left a ha
    exact ⟨b, hb, (Account.alike_iff.mp hab).symm⟩
  · rintro ⟨b, hb, rfl⟩
    obtain ⟨a, ha, hab⟩ := h.right b hb
    exact ⟨a, ha, Account.alike_iff.mp hab⟩

/-- What is shown of the selected rows does not depend on hidden fields. -/
theorem Alike.view_select {s t : MemoryStore} (h : s.Alike t) {q : Query} (hq : q.AvoidsNumber) :
    (select s.rows q).map Account.view = (select t.rows q).map Account.view := by
  have hview (rows : List Account) :
      rows.map Account.view = (rows.map Account.redact).map Account.view := by
    simp
  rw [hview, hview (select t.rows q), ← select_redact hq, ← select_redact hq,
    select_of_perm t.distinctIds_redact h.perm_redact]

theorem map_cut_congr {β : Type} {f : Account → β} {rows rows' : List Account}
    (h : rows.map f = rows'.map f) (w : Window) : (cut w rows).map f = (cut w rows').map f := by
  unfold cut
  cases w.limit <;> simp [List.map_take, List.map_drop, h]

section

variable {s t : MemoryStore} {q : Query}

theorem Alike.view_fetch (h : s.Alike t) (hq : q.AvoidsNumber) :
    (s.fetch q).map Account.view = (t.fetch q).map Account.view :=
  map_cut_congr (h.view_select hq) q.window

theorem Alike.view_page (h : s.Alike t) (hq : q.AvoidsNumber) (r : PageRequest)
    (overflow : PageOverflow) :
    (s.source.page q r overflow).map (Page.map Account.view) =
      (t.source.page q r overflow).map (Page.map Account.view) := by
  have hselect := h.view_select hq
  have htotal : (s.fetchPage q r.window).total = (t.fetchPage q r.window).total := by
    have hlength := congrArg List.length hselect
    rw [List.length_map, List.length_map] at hlength
    exact congrArg UInt64.ofNat hlength
  have hitems : (s.fetchPage q r.window).items.map Account.view =
      (t.fetchPage q r.window).items.map Account.view := map_cut_congr hselect r.window
  change ((s.fetchPage q r.window).toPage r overflow).map _ =
    ((t.fetchPage q r.window).toPage r overflow).map _
  unfold PageSlice.toPage
  rw [htotal]
  split
  · rfl
  · simp only [Except.map, Page.ofItems, Page.map, hitems]

end

end MemoryStore

end AccountRegistry
