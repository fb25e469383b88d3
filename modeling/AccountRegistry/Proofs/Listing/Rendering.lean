import AccountRegistry.Proofs.Sql.Rendering
import AccountRegistry.Proofs.Store.Visibility

/-! # Rendering of accepted requests

A filter is measured by its one condition, a query by the sum over all of its conditions. The margin
between the two limits pays for what reads add to a filter, so no accepted request is too complex to
render.
-/

namespace AccountRegistry

/-! ## Queries -/

theorem Condition.sizeAll_append (cs ds : List Condition) :
    sizeAll (cs ++ ds) = sizeAll cs + sizeAll ds := by
  induction cs with
  | nil => rw [List.nil_append, sizeAll, Nat.zero_add]
  | cons c cs ih => rw [List.cons_append, sizeAll, sizeAll, ih, Nat.add_assoc]

namespace Query

/-- The number of nodes of all conditions. -/
def size (q : Query) : Nat := Condition.sizeAll q.conditions

theorem size_restrict (q : Query) (c : Condition) : (q.restrict c).size = q.size + c.size := by
  rw [size, restrict, Condition.sizeAll_append, Condition.sizeAll, Condition.sizeAll, Nat.add_zero,
    size]

theorem size_active : active.size = 1 := rfl

theorem size_active_compare (field : Field) (op : Comparison) (d : Datum) :
    (active.restrict (.compare field op d)).size = 2 := rfl

/-- Both statements of a query can be rendered. -/
def Renders (q : Query) : Prop :=
  (∃ row, q.rowStatement = .ok row) ∧ ∃ count, q.countStatement = .ok count

theorem renders_of_size_le {q : Query} {name : String} (hsize : q.size ≤ maxConditionNodes)
    (hname : quoteIdentifier q.schema = .ok name) : q.Renders := by
  have h : q.Renderable := ⟨hsize, (quoteIdentifier_eq_ok_iff.mp hname).1⟩
  exact ⟨⟨_, rowStatement_eq_ok_iff.mpr ⟨h, rfl⟩⟩, ⟨_, countStatement_eq_ok_iff.mpr ⟨h, rfl⟩⟩⟩

end Query

/-! ## Filters -/

namespace Filter

variable {P : Type} [FilterProperty P] {f : Filter P}

theorem size_compile_of_ofNodes {ns : List (FilterNode P)} (h : ofNodes ns = .ok f) :
    f.compile.size ≤ maxFilterNodes := by
  rw [ofNodes] at h
  split at h
  · rename_i hsize
    cases h
    exact hsize
  · cases h

theorem size_compile_of_read {raw : Option String} (h : read raw = .ok f) :
    f.compile.size ≤ maxFilterNodes := by
  cases raw with
  | none =>
    cases h
    exact none.bounded
  | some raw =>
    obtain ⟨v, -, h⟩ := bind_eq_ok_iff.mp (mapError_eq_ok_iff.mp h)
    obtain ⟨ns, -, h⟩ := bind_eq_ok_iff.mp h
    exact size_compile_of_ofNodes h

theorem size_apply_le (f : Filter P) (q : Query) : (f.apply q).size ≤ q.size + f.compile.size := by
  rw [apply]
  split
  · exact Nat.le_add_right _ _
  · exact Nat.le_of_eq (q.size_restrict f.compile)

end Filter

/-! ## Requests -/

namespace Listing

variable {pages : PageSettings} {texts : ListingTexts} {l : Listing}

theorem read_of_ofTexts (h : ofTexts pages texts = .ok l) :
    Filter.read texts.filter = .ok l.filter := by
  rw [ofTexts] at h
  split at h
  · rename_i hfilter _ _
    cases h
    exact hfilter
  · cases h

theorem size_query_le (h : ofTexts pages texts = .ok l) : l.query.size ≤ 1 + maxFilterNodes := by
  have hfilter := Filter.size_compile_of_read (read_of_ofTexts h)
  have happly := l.filter.size_apply_le .active
  rw [Query.size_active] at happly
  rw [query_eq]
  exact Nat.le_trans happly (Nat.add_le_add_left hfilter 1)

/-- The query of an accepted listing renders in every schema whose name is accepted, and so do the
queries of the lookups. -/
theorem accepted_listing_renders (h : ofTexts pages texts = .ok l) {schema name : String}
    (hname : quoteIdentifier schema = .ok name) :
    (∀ w : Window, ((l.query.inSchema schema).within w).Renders) ∧
    (∀ id, ((Query.byId id).inSchema schema).Renders) ∧
    (∀ number, ((Query.byNumber number).inSchema schema).Renders) ∧
    ∀ id, ((Query.byCompany id).inSchema schema).Renders := by
  have hlookup {q : Query} (hq : q.size = 2) : (q.inSchema schema).Renders :=
    Query.renders_of_size_le (Nat.le_trans (Nat.le_of_eq hq) (by decide)) hname
  refine ⟨fun w => ?_, fun id => ?_, fun number => ?_, fun id => ?_⟩
  · exact Query.renders_of_size_le (Nat.le_trans (size_query_le h) (by decide)) hname
  · exact hlookup (Query.size_active_compare .id .eq (.uuid id))
  · exact hlookup (Query.size_active_compare .number .eq (.text number))
  · exact hlookup (Query.size_active_compare .companyId .eq (.text id.text))

/-- A request that leaves nothing out. -/
def sampleTexts : ListingTexts where
  filter := (Json.Value.object [("or", .array [.object
    [("property", .string "Currency"), ("operator", .string "in"),
      ("value", .array [.string "978", .string "840"])]])]).print
  sort := (Json.Value.object [("property", .string "created")]).print
  page := " 2"
  size := "10"

theorem sample_request_renders : ∃ l : Listing,
    ofTexts ⟨50, 1000, .empty⟩ sampleTexts = .ok l ∧ l.page.page = 2 ∧
    ((l.query.inSchema "bank_1").within l.page.window).Renders := by
  have accepted : (ofTexts ⟨50, 1000, .empty⟩ sampleTexts).toOption.any
      (fun l => l.page.page == 2) = true := by
    decide +kernel
  have hname : quoteIdentifier "bank_1" = .ok "\"bank_1\"" := by decide
  obtain ⟨l, h, hpage⟩ := exists_ok_of_any accepted
  exact ⟨l, h, eq_of_beq hpage, (accepted_listing_renders h hname).1 _⟩

end Listing

end AccountRegistry
