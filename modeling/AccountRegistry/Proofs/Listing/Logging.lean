import AccountRegistry.Proofs.Filter.Decided
import AccountRegistry.Proofs.Listing.Rendering
import AccountRegistry.Proofs.Sql.Echo
import AccountRegistry.Proofs.Time.Reading

/-! # Statements in the log

A statement can be logged if all its parameters have texts. Moments are the only values that may
have none, and a statement gets them from the filter alone.
-/

namespace AccountRegistry

/-! ## Parameters -/

namespace Condition

mutual

/-- The parameters of a condition are the values that it compares with. -/
theorem parameters_eq : ∀ c : Condition,
    c.parameters = (c.atoms.filter fun x => x.op.takesValue).map Atom.value
  | .compare f op d => by
    rw [parameters, atoms]
    cases op <;> rfl
  | .oneOf f ds => by
    rw [parameters, atoms, List.filter_map, List.map_map]
    simp [Function.comp_def, Comparison.takesValue]
  | .any cs | .all cs => parametersAll_eq cs
  | .not c => parameters_eq c
  | .always | .never => rfl

theorem parametersAll_eq : ∀ cs : List Condition,
    parametersAll cs = ((atomsAll cs).filter fun x => x.op.takesValue).map Atom.value
  | [] => rfl
  | c :: cs => by
    rw [parametersAll, atomsAll, parameters_eq c, parametersAll_eq cs, List.filter_append,
      List.map_append]

end

theorem forall_mem_parameters_iff {c : Condition} {p : Datum → Prop} :
    (∀ d ∈ c.parameters, p d) ↔ ∀ x ∈ c.atoms, x.op.takesValue = true → p x.value := by
  rw [parameters_eq, List.forall_mem_map]
  simp only [List.mem_filter, and_imp]

theorem parametersAll_append (cs ds : List Condition) :
    parametersAll (cs ++ ds) = parametersAll cs ++ parametersAll ds := by
  rw [parametersAll_eq, atomsAll_append, List.filter_append, List.map_append, ← parametersAll_eq,
    ← parametersAll_eq]

end Condition

namespace Query

variable {q : Query} {schema name : String}

theorem writable_restrict_iff {c : Condition} :
    (q.restrict c).Writable ↔ q.Writable ∧ ∀ d ∈ c.parameters, d.Writable := by
  unfold Writable parameters restrict
  dsimp only
  rw [Condition.parametersAll_append, List.forall_mem_append, Condition.parametersAll,
    Condition.parametersAll, List.append_nil]

theorem writable_active : active.Writable := by
  have hparameters : active.parameters = [.bool false] := rfl
  rw [Writable, hparameters, List.forall_mem_singleton]
  exact trivial

/-- Both statements of a query exist and can be written to a log. -/
def Prints (q : Query) : Prop :=
  (∃ row s, q.rowStatement = .ok row ∧ row.shown = .ok s) ∧
    ∃ count s, q.countStatement = .ok count ∧ count.shown = .ok s

theorem Renders.prints_iff (h : q.Renders) : q.Prints ↔ q.Writable := by
  obtain ⟨⟨row, hrow⟩, count, hcount⟩ := h
  constructor
  · rintro ⟨⟨row', s, hrow', hs⟩, -⟩
    exact (exists_shown_iff hrow').mp ⟨s, hs⟩
  · intro hq
    obtain ⟨s, hs⟩ := (exists_shown_iff hrow).mpr hq
    obtain ⟨s', hs'⟩ := (exists_shown_count_iff hcount).mpr hq
    exact ⟨⟨row, s, hrow, hs⟩, count, s', hcount, hs'⟩

end Query

/-! ## Moments of a filter -/

/-- A moment that a filter compares the last change with. -/
def Filter.Mentions (f : Filter AccountProperty) (t : Timestamp) : Prop :=
  ∃ c ∈ f.leaves, c.operator.isUnary = false ∧ .timestamp t ∈ c.operand.values

/-- Of accepted operands only those of the tests for a missing value are left out. -/
theorem Operator.forall_mem_atoms_apply_iff {op : Operator} {f : Field} {x : Operand}
    (h : x.form ∈ op.forms) {p : Datum → Prop} :
    (∀ y ∈ (op.apply f x).atoms, y.op.takesValue = true → p y.value) ↔
      (op.isUnary = false → ∀ d ∈ x.values, p d) := by
  cases op <;> cases x <;> simp [Operand.form, forms] at h <;>
    simp [apply, comparison?, Condition.atoms, Condition.atoms_memberOf, Condition.isNull,
      Condition.isNotNull, Operand.values, Comparison.takesValue, isUnary]

/-- Only the last change is compared with moments, and they are read from texts. -/
theorem AccountProperty.read_of_coerce {p : AccountProperty} {s : String} {t : Timestamp}
    (h : p.coerce s = .ok (.timestamp t)) : Timestamp.read s = .ok t := by
  cases p with
  | client => cases h
  | kind | clientId | currency =>
    obtain ⟨_, -, h⟩ := map_eq_ok_iff.mp (mapError_eq_ok_iff.mp h)
    cases h
  | modified =>
    obtain ⟨_, ht, h⟩ := map_eq_ok_iff.mp (mapError_eq_ok_iff.mp h)
    cases h
    exact Timestamp.ofText_eq_ok_iff.mp ht

theorem IsOperand.exists_read {p : AccountProperty} {v : Option Json.Value} {x : Operand}
    (h : IsOperand p v x) {t : Timestamp} (ht : .timestamp t ∈ x.values) :
    ∃ s, Timestamp.read s = .ok t := by
  obtain ⟨s, hs⟩ := h.exists_coerce _ ht
  exact ⟨s, AccountProperty.read_of_coerce hs⟩

namespace Filter

theorem exists_ofValue_of_read {P : Type} [FilterProperty P] {f : Filter P} {raw : Option String}
    (h : read raw = .ok f) : ∃ v, ofValue v = .ok f := by
  cases raw with
  | none =>
    cases h
    exact ⟨.array [], rfl⟩
  | some raw =>
    obtain ⟨v, -, hv⟩ := bind_eq_ok_iff.mp (mapError_eq_ok_iff.mp h)
    exact ⟨v, hv⟩

theorem writable_apply_iff {P : Type} [FilterProperty P] {f : Filter P} {q : Query} :
    (f.apply q).Writable ↔ q.Writable ∧ ∀ d ∈ f.compile.parameters, d.Writable := by
  rw [apply]
  split
  · next hempty =>
    have hnone : f.compile.parameters = [] := by
      rw [compile, List.isEmpty_iff.mp hempty]
      rfl
    rw [hnone]
    exact (and_iff_left (List.forall_mem_nil _)).symm
  · exact Query.writable_restrict_iff

variable {f : Filter AccountProperty} {v : Json.Value}

theorem forall_mem_parameters_iff (h : ofValue v = .ok f) {p : Datum → Prop} :
    (∀ d ∈ f.compile.parameters, p d) ↔
      ∀ c ∈ f.leaves, c.operator.isUnary = false → ∀ d ∈ c.operand.values, p d := by
  rw [Condition.forall_mem_parameters_iff, forall_mem_atoms_compile]
  refine forall₂_congr fun c hc => ?_
  obtain ⟨ms, hms⟩ := isCriterion_of_mem_leaves h hc
  exact Operator.forall_mem_atoms_apply_iff hms.suits

theorem forall_mem_writable_iff (h : ofValue v = .ok f) :
    (∀ d ∈ f.compile.parameters, d.Writable) ↔ ∀ t, f.Mentions t → t.Writable := by
  rw [forall_mem_parameters_iff h]
  constructor
  · rintro hall t ⟨c, hc, hop, ht⟩
    exact hall c hc hop _ ht
  · intro hall c hc hop d hd
    cases d with
    | timestamp t => exact hall t ⟨c, hc, hop, hd⟩
    | _ => exact trivial

theorem Mentions.exists_read (h : ofValue v = .ok f) {t : Timestamp} (ht : f.Mentions t) :
    ∃ s, Timestamp.read s = .ok t := by
  obtain ⟨c, hc, -, hmem⟩ := ht
  obtain ⟨ms, hms⟩ := isCriterion_of_mem_leaves h hc
  exact hms.operand.exists_read hmem

end Filter

/-! ## Requests -/

namespace Listing

variable {pages : PageSettings} {texts : ListingTexts} {l : Listing}

/-- The statements of an accepted listing exist, and both can be logged exactly if every moment that
the filter mentions can be written. Such a moment is read from a text, and can be written unless the
text begins with a year before year 0 or ends with an offset of 24 or 25 hours. Lookups can always
be logged. -/
theorem accepted_listing_prints (h : ofTexts pages texts = .ok l) {schema name : String}
    (hname : quoteIdentifier schema = .ok name) :
    (∀ w : Window, ((l.query.inSchema schema).within w).Renders ∧
      (((l.query.inSchema schema).within w).Prints ↔ ∀ t, l.filter.Mentions t → t.Writable)) ∧
    (∀ t, l.filter.Mentions t →
      ∃ s, Timestamp.read s = .ok t ∧ (t.Writable ↔ Timestamp.IsPlainText s)) ∧
    (∀ id, ((Query.byId id).inSchema schema).Prints) ∧
    (∀ number, ((Query.byNumber number).inSchema schema).Prints) ∧
    ∀ id, ((Query.byCompany id).inSchema schema).Prints := by
  obtain ⟨hlisting, hbyId, hbyNumber, hbyCompany⟩ := accepted_listing_renders h hname
  obtain ⟨v, hv⟩ := Filter.exists_ofValue_of_read (read_of_ofTexts h)
  have hlookup {field : Field} {d : Datum} (hd : d.Writable) :
      (Query.active.restrict (.compare field .eq d)).Writable :=
    Query.writable_restrict_iff.mpr ⟨Query.writable_active, List.forall_mem_singleton.mpr hd⟩
  refine ⟨fun w => ⟨hlisting w, ?_⟩, fun t ht => ?_, fun id => ?_, fun number => ?_, fun id => ?_⟩
  · have hquery : ((l.query.inSchema schema).within w).Writable ↔
        (l.filter.apply .active).Writable := by
      rw [query_eq]
      exact .rfl
    rw [(hlisting w).prints_iff, hquery, Filter.writable_apply_iff,
      Filter.forall_mem_writable_iff hv, and_iff_right Query.writable_active]
  · obtain ⟨s, hs⟩ := ht.exists_read hv
    exact ⟨s, hs, Timestamp.writable_iff_of_read hs⟩
  · exact (hbyId id).prints_iff.mpr (hlookup (d := .uuid id) trivial)
  · exact (hbyNumber number).prints_iff.mpr (hlookup (d := .text number) trivial)
  · exact (hbyCompany id).prints_iff.mpr (hlookup (d := .text id.text) trivial)

/-- A request for the accounts that have changed since a moment. -/
def changedSince (moment : String) : ListingTexts where
  filter := (Json.Value.object [("property", .string "modified"), ("operator", .string ">="),
    ("value", .string moment)]).print
  sort := none
  page := none
  size := none

theorem changed_since_leap_day_prints : ∃ l : Listing,
    ofTexts ⟨50, 1000, .empty⟩ (changedSince "2024-02-29 23:30:00+02:00") = .ok l ∧
    ((l.query.inSchema "bank_1").within l.page.window).Prints := by
  have accepted : (ofTexts ⟨50, 1000, .empty⟩
      (changedSince "2024-02-29 23:30:00+02:00")).toOption.any
        (fun l => decide (∀ c ∈ l.filter.leaves, ∀ d ∈ c.operand.values, d.Writable)) = true := by
    decide +kernel
  have hname : quoteIdentifier "bank_1" = .ok "\"bank_1\"" := by decide
  obtain ⟨l, h, hwritable⟩ := exists_ok_of_any accepted
  rw [decide_eq_true_iff] at hwritable
  refine ⟨l, h, ((accepted_listing_prints h hname).1 _).2.mpr ?_⟩
  rintro t ⟨c, hc, -, ht⟩
  exact hwritable c hc _ ht

/-- The request is accepted and its statement exists, but it cannot be logged. -/
theorem changed_since_year_minus_one_fails : ∃ (l : Listing) (row : Statement),
    ofTexts ⟨50, 1000, .empty⟩ (changedSince "-0001-01-01") = .ok l ∧
    l.query.rowStatement = .ok row ∧ ∀ s, row.shown ≠ .ok s := by
  have accepted : (ofTexts ⟨50, 1000, .empty⟩ (changedSince "-0001-01-01")).toOption.any
      (fun l => l.query.rowStatement.toOption.any fun row => row.shown.toOption.isNone) = true := by
    decide +kernel
  obtain ⟨l, h, hl⟩ := exists_ok_of_any accepted
  obtain ⟨row, hrow, hnone⟩ := exists_ok_of_any hl
  refine ⟨l, row, h, hrow, fun s hs => ?_⟩
  rw [hs] at hnone
  cases hnone

end Listing

end AccountRegistry
