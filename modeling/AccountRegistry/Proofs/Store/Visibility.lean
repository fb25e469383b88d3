import AccountRegistry.Proofs.Condition.Truth
import AccountRegistry.Proofs.Store.Pages
import AccountRegistry.Proofs.Store.RowOrder
import AccountRegistry.Service.Listing
import AccountRegistry.Store.Source

/-! # What reads show

Every read starts from the query of active accounts, and what is added to a query can only restrict
it further. So no read shows an archived account, and a filter takes rows out of a listing without
touching the others.
-/

namespace AccountRegistry

namespace Query

/-- An archived account satisfies no query of this kind. -/
def HidesArchived (q : Query) : Prop := .compare .archived .eq (.bool false) ∈ q.conditions

theorem hidesArchived_active : active.HidesArchived := List.mem_singleton_self _

theorem HidesArchived.restrict {q : Query} (h : q.HidesArchived) (c : Condition) :
    (q.restrict c).HidesArchived := List.mem_append_left _ h

theorem hidesArchived_byId (id : Uuid) : (byId id).HidesArchived :=
  hidesArchived_active.restrict _

theorem hidesArchived_byNumber (number : String) : (byNumber number).HidesArchived :=
  hidesArchived_active.restrict _

theorem hidesArchived_byCompany (id : Uuid) : (byCompany id).HidesArchived :=
  hidesArchived_active.restrict _

/-- The clauses that a sort adds leave the conditions alone. -/
theorem foldl_orderBy (clauses : List SortClause) (q : Query) :
    clauses.foldl orderBy q = { q with order := q.order ++ clauses } := by
  induction clauses generalizing q with
  | nil => simp
  | cons s rest ih => rw [List.foldl_cons, ih, orderBy, List.append_assoc, List.singleton_append]

theorem matches_restrict (q : Query) (c : Condition) :
    (q.restrict c).predicate.matches = fun a => c.matches a && q.predicate.matches a := by
  funext a
  rw [Bool.eq_iff_iff, Bool.and_eq_true, Condition.matches_iff, Condition.matches_iff,
    Condition.matches_iff, truth_restrict, Truth.and_eq_true_iff, and_comm]

end Query

theorem truth_archived_eq (a : Account) (b : Bool) :
    Condition.truth a (.compare .archived .eq (.bool b)) = some true ↔ a.archived = b := by
  rw [Condition.truth, Account.get]
  cases a.archived <;> cases b <;> decide

namespace MemoryStore

variable (s : MemoryStore)

/-- An account that is stored and not archived. -/
def Shows (a : Account) : Prop := a ∈ s.rows ∧ a.archived = false

theorem cut_sublist (w : Window) (rows : List Account) : (cut w rows).Sublist rows := by
  rcases w with ⟨_ | n, offset⟩
  · exact List.drop_sublist _ _
  · exact (List.take_sublist _ _).trans (List.drop_sublist _ _)

theorem shows_of_mem_select {q : Query} (hq : q.HidesArchived) {a : Account}
    (h : a ∈ select s.rows q) : s.Shows a := by
  obtain ⟨hmem, hm⟩ := mem_select.mp h
  rw [Condition.matches_iff, Query.truth_predicate, Truth.all_eq_true_iff,
    List.forall_mem_map] at hm
  exact ⟨hmem, (truth_archived_eq a false).mp (hm _ hq)⟩

theorem shows_of_mem_fetch {q : Query} (hq : q.HidesArchived) {a : Account}
    (h : a ∈ s.fetch q) : s.Shows a :=
  s.shows_of_mem_select hq ((cut_sublist _ _).mem h)

/-- A further condition takes out the rows on which it does not hold, whatever the order. -/
theorem select_restrict {rows : List Account} (h : DistinctIds rows) (q : Query) (c : Condition) :
    select rows (q.restrict c) = (select rows q).filter c.matches := by
  symm
  rw [eq_select_iff h, Query.matches_restrict, ← List.filter_filter]
  exact ⟨(select_perm rows q).filter _, (pairwise_select h q).filter _⟩

/-- A filter without nodes is not added to the conditions, and would take out no rows. -/
theorem select_apply {P : Type} [FilterProperty P] {rows : List Account} (h : DistinctIds rows)
    (f : Filter P) (q : Query) :
    select rows (f.apply q) = (select rows q).filter f.compile.matches := by
  rw [Filter.apply]
  split
  · rename_i hempty
    have hc : f.compile = .always := by
      rw [Filter.compile, List.isEmpty_iff.mp hempty]
      rfl
    rw [hc]
    exact (List.filter_eq_self.mpr fun _ _ => rfl).symm
  · exact select_restrict h q f.compile

end MemoryStore

/-! ## Listings -/

namespace Listing

variable (l : Listing)

/-- The same listing of all active accounts. -/
def unfiltered : Listing := { l with filter := .none }

theorem query_eq : l.query = { l.filter.apply .active with order := l.sort.compile } := by
  rw [query, SortOrder.apply, Query.foldl_orderBy, Filter.apply]
  split <;> rfl

theorem query_of_isEmpty (h : l.filter.nodes.isEmpty = true) : l.query = l.unfiltered.query := by
  rw [query_eq, query_eq, Filter.apply, if_pos h]
  rfl

theorem query_of_not_isEmpty (h : ¬ l.filter.nodes.isEmpty = true) :
    l.query = l.unfiltered.query.restrict l.filter.compile := by
  rw [query_eq, query_eq, Filter.apply, if_neg h]
  rfl

theorem hidesArchived_unfiltered : l.unfiltered.query.HidesArchived := by
  rw [query_eq]
  exact Query.hidesArchived_active

theorem hidesArchived_query : l.query.HidesArchived := by
  by_cases h : l.filter.nodes.isEmpty = true
  · rw [l.query_of_isEmpty h]
    exact l.hidesArchived_unfiltered
  · rw [l.query_of_not_isEmpty h]
    exact l.hidesArchived_unfiltered.restrict _

theorem window_query : l.query.window = .all := by
  rw [query_eq, Filter.apply]
  split <;> rfl

end Listing

namespace MemoryStore

variable (s : MemoryStore)

theorem fetch_query (l : Listing) : s.fetch l.query = select s.rows l.query := by
  rw [fetch, l.window_query]
  rfl

/-- A listing is the unfiltered one without the rows on which the filter does not hold. -/
theorem fetch_listing (l : Listing) :
    s.fetch l.query = (s.fetch l.unfiltered.query).filter l.filter.compile.matches := by
  rw [fetch_query, fetch_query]
  by_cases h : l.filter.nodes.isEmpty = true
  · have hc : l.filter.compile = .always := by
      rw [Filter.compile, List.isEmpty_iff.mp h]
      rfl
    rw [l.query_of_isEmpty h, hc]
    exact (List.filter_eq_self.mpr fun _ _ => rfl).symm
  · rw [l.query_of_not_isEmpty h]
    exact select_restrict s.distinct _ _

theorem items_of_toPage {slice : PageSlice} {r : PageRequest} {overflow : PageOverflow}
    {page : Page Account} (h : slice.toPage r overflow = .ok page) : page.items = slice.items := by
  rw [PageSlice.toPage] at h
  split at h
  · cases h
  · cases h
    rfl

theorem shows_of_mem_page {q : Query} (hq : q.HidesArchived) {r : PageRequest}
    {overflow : PageOverflow} {page : Page Account} (h : s.source.page q r overflow = .ok page)
    {a : Account} (ha : a ∈ page.items) : s.Shows a := by
  have hitems : page.items = (s.fetchPage q r.window).items := items_of_toPage h
  rw [hitems] at ha
  exact s.shows_of_mem_select hq ((cut_sublist r.window _).mem ha)

theorem shows_of_lookup {q : Query} (hq : q.HidesArchived) {a : Account}
    (h : (s.source.fetch q).map List.head? = .ok (some a)) : s.Shows a := by
  have hhead : (s.fetch q).head? = some a := Except.ok.inj h
  exact s.shows_of_mem_fetch hq (List.mem_of_mem_head? hhead)

/-- No read shows an archived account, and the rows of a listing are those of the unfiltered listing
on which its filter is true, in the same order. -/
theorem reads_show_active (l : Listing) (overflow : PageOverflow) :
    (∀ page, s.source.page l.query l.page overflow = .ok page → ∀ a ∈ page.items, s.Shows a) ∧
    (∀ id a, s.source.findById id = .ok (some a) → s.Shows a) ∧
    (∀ number a, s.source.findByNumber number = .ok (some a) → s.Shows a) ∧
    (∀ id rows, s.source.listByCompany id = .ok rows → ∀ a ∈ rows, s.Shows a) ∧
    s.fetch l.query =
      (s.fetch l.unfiltered.query).filter (fun a => l.filter.compile.eval a == some true) := by
  refine ⟨fun page h a ha => ?_, fun id a h => ?_, fun number a h => ?_, fun id rows h a ha => ?_,
    s.fetch_listing l⟩
  · exact s.shows_of_mem_page l.hidesArchived_query h ha
  · exact s.shows_of_lookup (Query.hidesArchived_byId id) h
  · exact s.shows_of_lookup (Query.hidesArchived_byNumber number) h
  · cases h
    exact s.shows_of_mem_fetch (Query.hidesArchived_byCompany id) ha

/-- The listing of a request without parameters. -/
def sampleListing : Listing := ⟨.none, .standard, ⟨1, 50, by decide, by decide⟩⟩

theorem found_account_is_shown :
    let a := { (default : Account) with id := .ofNat 1 }
    sampleStore.source.findById (.ofNat 1) = .ok (some a) ∧ sampleStore.Shows a := by
  intro a
  have hrows : sampleStore.rows.filter (Query.byId (.ofNat 1)).predicate.matches = [a] := by decide
  have h : sampleStore.source.findById (.ofNat 1) = .ok (some a) := by
    change Except.ok (cut _ (select _ _)).head? = _
    rw [select, hrows, sortById, List.mergeSort_singleton, sortByClauses, List.mergeSort_singleton]
    rfl
  exact ⟨h, (sampleStore.reads_show_active sampleListing .empty).2.1 _ _ h⟩

end MemoryStore

end AccountRegistry
