import AccountRegistry.Proofs.Filter.Complement

/-! # Comparisons of companies

A company is compared by the text of its identifier. Texts are in the order of the identifiers, so a
filter compares the identifiers as numbers, however the one it names is spelled.
-/

namespace AccountRegistry

/-! ## Operators on texts -/

/-- What an operator that compares says of two numbers. -/
def Operator.relation? : Operator → Option (Nat → Nat → Prop)
  | .eq => some (· = ·)
  | .ne => some (· ≠ ·)
  | .gt => some (· > ·)
  | .lt => some (· < ·)
  | .ge => some (· ≥ ·)
  | .le => some (· ≤ ·)
  | _ => none

namespace Operator

variable {op : Operator} {R : Nat → Nat → Prop}

theorem single_mem_forms (h : op.relation? = some R) : .single ∈ op.forms := by
  cases op <;> cases h <;> decide

/-- An operator relates texts as it relates numbers in the same order. -/
theorem truth_apply_text (h : op.relation? = some R) {f : Field} {a : Account} {s t : String}
    (hs : a.get f = .text s) {m n : Nat} (horder : compare s t = compare m n) :
    (op.apply f (.single (.text t))).truth a = some true ↔ R m n := by
  cases op <;> cases h <;>
    simp [apply, comparison?, Condition.truth, hs, Comparison.eval, Datum.order?,
      Comparison.ofOrder, horder, Nat.compare_eq_lt, Nat.compare_eq_gt]

end Operator

/-- Membership of a text in texts is known. -/
theorem Condition.truth_memberOf_texts {f : Field} {a : Account} {s : String}
    (hs : a.get f = .text s) (texts : List String) :
    Condition.truth a (memberOf f (texts.map .text)) = some (decide (s ∈ texts)) := by
  rw [truth_memberOf, hs]
  induction texts with
  | nil => rfl
  | cons t texts ih =>
    have heq : Comparison.eval .eq (.text s) (.text t) = some (decide (s = t)) := by
      refine congrArg some (Bool.eq_iff_iff.mpr ?_)
      rw [beq_iff_eq, Std.compare_eq_iff_eq, decide_eq_true_iff]
    rw [List.map_cons, List.map_cons, Truth.any_cons, ih, heq]
    by_cases h : s = t <;> simp [h]

/-! ## Companies -/

/-- The members of an object are accepted as a filter, which matches the accounts with a property
and no others. -/
def Selects (ms : List (String × Json.Value)) (p : Account → Prop) : Prop :=
  ∃ f : Filter AccountProperty, Filter.ofValue (.object ms) = .ok f ∧
    ∀ a, f.compile.matches a = true ↔ p a

theorem Names.selects {ms : List (String × Json.Value)} {p : AccountProperty} {op : Operator}
    {v : Option Json.Value} (h : Names ms p op v) {x : Operand} (hx : IsOperand p v x)
    (hform : x.form ∈ op.forms) {q : Account → Prop}
    (hq : ∀ a, (op.apply p.field x).truth a = some true ↔ q a) : Selects ms q := by
  obtain ⟨f, hf⟩ := h.exists_ofValue_iff.mpr ⟨x, hx, hform⟩
  obtain ⟨y, hnodes, hy, -⟩ := h.ofValue_eq_ok_iff.mp hf
  obtain rfl := hx.unique hy
  refine ⟨f, hf, fun a => ?_⟩
  rw [Filter.compile_of_leaf hnodes, Condition.matches_iff, hq]

theorem coerce_clientId {s : String} {u : Uuid} (h : Uuid.read s = .ok u) :
    FilterProperty.coerce AccountProperty.clientId s = .ok (.text u.text) :=
  mapError_eq_ok_iff.mpr (map_eq_ok_iff.mpr ⟨u, h, rfl⟩)

theorem isOperand_companies {texts : List String} {us : List Uuid}
    (h : List.Forall₂ (fun s u => Uuid.read s = .ok u) texts us) :
    IsOperand AccountProperty.clientId (some (.array (texts.map .string)))
      (.list ((us.map Uuid.text).map .text)) := by
  refine .list ?_
  rw [List.map_map, List.forall₂_map_right_iff]
  exact h.imp fun s u => coerce_clientId

theorem truth_memberOf_companies (a : Account) (us : List Uuid) :
    Condition.truth a (.memberOf .companyId ((us.map Uuid.text).map .text)) =
      some (decide (a.companyId ∈ us)) := by
  have hmem : a.companyId.text ∈ us.map Uuid.text ↔ a.companyId ∈ us := by
    simp [Uuid.text_inj]
  rw [Condition.truth_memberOf_texts rfl, decide_eq_decide.mpr hmem]

/-- An identifier is read from its spellings and from nothing else, and its text is its own and
keeps the order. A criterion that compares companies with a spelled identifier is accepted and
compares the numbers; one that looks for companies among spelled identifiers is accepted and finds
those that are, or are not, one of them. -/
theorem companies_compare_as_numbers :
    (∀ (s : String) (u : Uuid), Uuid.read s = .ok u ↔ s.toList.map Char.toLower ∈ u.spellings) ∧
    (∀ u v : Uuid, (u.text = v.text ↔ u = v) ∧ (u.text < v.text ↔ u.toNat < v.toNat)) ∧
    (∀ (ms : List (String × Json.Value)) (op : Operator) (R : Nat → Nat → Prop) (s : String)
      (u : Uuid), Names ms .clientId op (some (.string s)) → op.relation? = some R →
      Uuid.read s = .ok u → Selects ms fun a => R a.companyId.toNat u.toNat) ∧
    ∀ (ms : List (String × Json.Value)) (texts : List String) (us : List Uuid),
      List.Forall₂ (fun s u => Uuid.read s = .ok u) texts us →
      (Names ms .clientId .isIn (some (.array (texts.map .string))) →
        Selects ms fun a => a.companyId ∈ us) ∧
      (Names ms .clientId .notIn (some (.array (texts.map .string))) →
        Selects ms fun a => a.companyId ∉ us) := by
  refine ⟨fun s u => Uuid.read_eq_ok_iff, fun u v => ⟨Uuid.text_inj, Uuid.text_lt_iff⟩, ?_, ?_⟩
  · intro ms op R s u h hop hs
    refine h.selects (.single (coerce_clientId hs)) (Operator.single_mem_forms hop) fun a => ?_
    exact Operator.truth_apply_text hop rfl (Uuid.compare_text a.companyId u)
  · intro ms texts us hus
    have hx := isOperand_companies hus
    refine ⟨fun h => h.selects hx (List.mem_singleton_self _) fun a => ?_,
      fun h => h.selects hx (List.mem_singleton_self _) fun a => ?_⟩
    · have htruth := truth_memberOf_companies a us
      rw [Operator.apply, AccountProperty.field, htruth, Option.some.injEq, decide_eq_true_iff]
    · have htruth : Condition.truth a (.not (.memberOf .companyId
          ((us.map Uuid.text).map .text))) = some (!decide (a.companyId ∈ us)) :=
        congrArg Truth.not (truth_memberOf_companies a us)
      rw [Operator.apply, AccountProperty.field, htruth, Option.some.injEq, Bool.not_eq_true',
        decide_eq_false_iff_not]

/-- An identifier in braces and one without hyphens, with capital and small letters. -/
theorem spelled_companies_are_compared :
    let braced := "\x7b0000000A-0000-0000-0000-00000000000f\x7d"
    let simple := "0000000000000000000000000000beEF"
    Selects [("property", .string "client_id"), ("operator", .string "<="),
        ("value", .string braced)]
      (fun a => a.companyId.toNat ≤ 10 * 2 ^ 96 + 15) ∧
    Selects [("property", .string "Client_ID"), ("operator", .string "NOT_IN"),
        ("value", .array [.string braced, .string simple])]
      (fun a => a.companyId ∉ [.ofNat (10 * 2 ^ 96 + 15), .ofNat 0xBEEF]) := by
  intro braced simple
  obtain ⟨-, -, hcompare, hmember⟩ := companies_compare_as_numbers
  have hbraced : Uuid.read braced = .ok (.ofNat (10 * 2 ^ 96 + 15)) := by decide +kernel
  have hsimple : Uuid.read simple = .ok (.ofNat 0xBEEF) := by decide +kernel
  have hread : List.Forall₂ (fun s u => Uuid.read s = .ok u) [braced, simple]
      [.ofNat (10 * 2 ^ 96 + 15), .ofNat 0xBEEF] :=
    .cons hbraced (.cons hsimple .nil)
  refine ⟨hcompare _ .le _ braced _ ?_ rfl hbraced, (hmember _ _ _ hread).2 ?_⟩
  · exact ⟨fun kind => by cases kind <;> rfl, ⟨_, rfl, by decide⟩, ⟨_, rfl, by decide⟩, rfl⟩
  · exact ⟨fun kind => by cases kind <;> rfl, ⟨_, rfl, by decide⟩, ⟨_, rfl, by decide⟩, rfl⟩

end AccountRegistry
