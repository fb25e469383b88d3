import AccountRegistry.Proofs.Filter.Meaning

/-! # The grammar of filters

A filter is accepted exactly if the grammar derives nodes for it and their condition is small
enough. How the lists in it are nested or split makes no difference.
-/

namespace AccountRegistry

/-! ## Criteria -/

inductive OperandForm | absent | single | list
  deriving DecidableEq, Repr

def Operand.form : Operand → OperandForm
  | .absent => .absent
  | .single _ => .single
  | .list _ => .list

/-- The forms of operand that an operator takes. -/
def Operator.forms : Operator → List OperandForm
  | .isNull | .isNotNull => [.absent, .single, .list]
  | .eq | .ne => [.absent, .single]
  | .isIn | .notIn => [.list]
  | _ => [.single]

theorem Operator.checkOperand_eq_ok_iff {op : Operator} {property : String} {x : Operand}
    {u : Unit} : op.checkOperand property x = .ok u ↔ x.form ∈ op.forms := by
  cases op <;> cases x <;> simp [checkOperand, isUnary, Operand.form, forms]

section

variable {P : Type} [FilterProperty P]

/-- A missing value, null, a text or a list of texts, all of which the property can read. -/
inductive IsOperand (p : P) : Option Json.Value → Operand → Prop
  | missing : IsOperand p none .absent
  | null : IsOperand p (some .null) .absent
  | single {s : String} {d : Datum} (read : FilterProperty.coerce p s = .ok d) :
      IsOperand p (some (.string s)) (.single d)
  | list {texts : List String} {ds : List Datum}
      (read : List.Forall₂ (fun s d => FilterProperty.coerce p s = .ok d) texts ds) :
      IsOperand p (some (.array (texts.map .string))) (.list ds)

/-- The members of an object that stand for a criterion; other members do not matter. -/
structure IsCriterion (ms : List (String × Json.Value)) (c : Criterion P) : Prop where
  property : ∃ s, Json.member? "property" ms = some (.string s) ∧
    FilterProperty.resolve s = .ok c.property
  operator : ∃ s, Json.member? "operator" ms = some (.string s) ∧
    Operator.resolve s = .ok c.operator
  operand : IsOperand c.property (Json.member? "value" ms) c.operand
  suits : c.operand.form ∈ c.operator.forms

theorem coerceItem_eq_ok_iff {p : P} {v : Json.Value} {d : Datum} :
    coerceItem p v = .ok d ↔ ∃ s, v = .string s ∧ FilterProperty.coerce p s = .ok d := by
  cases v <;> simp [coerceItem]

/-- Items are read one by one exactly if all of them are texts that can be read. -/
theorem coerceItems_iff {p : P} {items : List Json.Value} {ds : List Datum} :
    List.Forall₂ (fun v d => coerceItem p v = .ok d) items ds ↔
      ∃ texts : List String, items = texts.map .string ∧
        List.Forall₂ (fun s d => FilterProperty.coerce p s = .ok d) texts ds := by
  constructor
  · intro h
    induction h with
    | nil => exact ⟨[], rfl, .nil⟩
    | cons hv _ ih =>
      obtain ⟨s, rfl, hs⟩ := coerceItem_eq_ok_iff.mp hv
      obtain ⟨texts, rfl, htexts⟩ := ih
      exact ⟨s :: texts, rfl, .cons hs htexts⟩
  · rintro ⟨texts, rfl, h⟩
    exact List.forall₂_map_left_iff.mpr h

theorem coerceOperand_eq_ok_iff {p : P} {v : Option Json.Value} {x : Operand} :
    coerceOperand p v = .ok x ↔ IsOperand p v x := by
  constructor
  · intro h
    match v with
    | none =>
      cases h
      exact .missing
    | some .null =>
      cases h
      exact .null
    | some (.string s) =>
      obtain ⟨d, hd, rfl⟩ := map_eq_ok_iff.mp h
      exact .single hd
    | some (.array items) =>
      obtain ⟨ds, hds, rfl⟩ := map_eq_ok_iff.mp h
      obtain ⟨texts, rfl, htexts⟩ := coerceItems_iff.mp (mapM_eq_ok_iff.mp hds)
      exact .list htexts
    | some (.bool _) | some (.number _) | some (.object _) => cases h
  · intro h
    cases h with
    | missing => rfl
    | null => rfl
    | single read => exact map_eq_ok_iff.mpr ⟨_, read, rfl⟩
    | list read =>
      exact map_eq_ok_iff.mpr ⟨_, mapM_eq_ok_iff.mpr (coerceItems_iff.mpr ⟨_, rfl, read⟩), rfl⟩

theorem requiredText_eq_ok_iff {key s : String} {ms : List (String × Json.Value)} :
    requiredText key ms = .ok s ↔ Json.member? key ms = some (.string s) :=
  ⟨requiredText_eq_ok, fun h => by rw [requiredText, h]⟩

theorem Criterion.ofMembers_eq_ok_iff {ms : List (String × Json.Value)} {c : Criterion P} :
    Criterion.ofMembers ms = .ok c ↔ IsCriterion ms c := by
  simp only [ofMembers, make, bind_eq_ok_iff, requiredText_eq_ok_iff, coerceOperand_eq_ok_iff,
    Operator.checkOperand_eq_ok_iff]
  constructor
  · rintro ⟨property, hproperty, p, hp, operator, hoperator, op, hop, x, hx, _, hform, h⟩
    cases h
    exact ⟨⟨property, hproperty, hp⟩, ⟨operator, hoperator, hop⟩, hx, hform⟩
  · rintro ⟨⟨property, hproperty, hp⟩, ⟨operator, hoperator, hop⟩, hx, hform⟩
    exact ⟨property, hproperty, _, hp, operator, hoperator, _, hop, _, hx, (), hform, rfl⟩

end

/-! ## Groups -/

/-- The kinds of group whose keys go before the key of a kind. -/
def GroupKind.earlier : GroupKind → List GroupKind
  | .or => []
  | .and => [.or]
  | .not => [.or, .and]

/-- An object holds a group under the first of its group keys. -/
def HoldsGroup (ms : List (String × Json.Value)) (kind : GroupKind) (v : Json.Value) : Prop :=
  (∀ k ∈ kind.earlier, Json.member? k.key ms = none) ∧ Json.member? kind.key ms = some v

/-- An object has none of the group keys. -/
def HoldsNoGroup (ms : List (String × Json.Value)) : Prop :=
  ∀ kind : GroupKind, Json.member? kind.key ms = none

theorem holdsGroup_or_not (ms : List (String × Json.Value)) :
    HoldsNoGroup ms ∨ ∃ kind v, HoldsGroup ms kind v := by
  cases hor : Json.member? GroupKind.or.key ms with
  | some v => exact .inr ⟨.or, v, by simp [GroupKind.earlier], hor⟩
  | none =>
    cases hand : Json.member? GroupKind.and.key ms with
    | some v => exact .inr ⟨.and, v, by simp [GroupKind.earlier, hor], hand⟩
    | none =>
      cases hnot : Json.member? GroupKind.not.key ms with
      | some v => exact .inr ⟨.not, v, by simp [GroupKind.earlier, hor, hand], hnot⟩
      | none => exact .inl fun kind => by cases kind <;> assumption

section

variable {P : Type} [FilterProperty P]

theorem FilterNode.underKey_eq (key : String) (ms : List (String × Json.Value)) :
    FilterNode.underKey (P := P) key ms = (Json.member? key ms).map FilterNode.ofValue := by
  induction ms with
  | nil => rfl
  | cons m ms ih =>
    rw [underKey, Json.member?]
    split
    · rfl
    · exact ih

theorem FilterNode.ofValue_group {ms : List (String × Json.Value)} {kind : GroupKind}
    {v : Json.Value} (h : HoldsGroup ms kind v) :
    FilterNode.ofValue (P := P) (.object ms) = (ofValue v).map fun ns => [.group kind ns] := by
  obtain ⟨hearlier, hv⟩ := h
  cases kind with
  | or => simp only [ofValue, underKey_eq, hv, Option.map_some]
  | and =>
    have hor := hearlier .or (by decide)
    simp only [ofValue, underKey_eq, hor, hv, Option.map_none, Option.map_some]
  | not =>
    have hor := hearlier .or (by decide)
    have hand := hearlier .and (by decide)
    simp only [ofValue, underKey_eq, hor, hand, hv, Option.map_none, Option.map_some]

theorem FilterNode.ofValue_criterion {ms : List (String × Json.Value)} (h : HoldsNoGroup ms) :
    FilterNode.ofValue (P := P) (.object ms) = (Criterion.ofMembers ms).map fun c => [.leaf c] := by
  simp only [ofValue, underKey_eq, h .or, h .and, h .not, Option.map_none]

/-! ## Filters -/

mutual

/-- The nodes that a filter stands for, from left to right. -/
inductive IsFilter : Json.Value → List (FilterNode P) → Prop
  | list {items : List Json.Value} {ns : List (FilterNode P)} (each : IsFilters items ns) :
      IsFilter (.array items) ns
  | group {ms : List (String × Json.Value)} {kind : GroupKind} {v : Json.Value}
      {ns : List (FilterNode P)} (holds : HoldsGroup ms kind v) (inner : IsFilter v ns) :
      IsFilter (.object ms) [.group kind ns]
  | criterion {ms : List (String × Json.Value)} {c : Criterion P} (holds : HoldsNoGroup ms)
      (spelled : IsCriterion ms c) : IsFilter (.object ms) [.leaf c]

inductive IsFilters : List Json.Value → List (FilterNode P) → Prop
  | nil : IsFilters [] []
  | cons {v : Json.Value} {vs : List Json.Value} {ns ms : List (FilterNode P)}
      (head : IsFilter v ns) (tail : IsFilters vs ms) : IsFilters (v :: vs) (ns ++ ms)

end

mutual

theorem isFilter_of_ofValue : ∀ (v : Json.Value) (ns : List (FilterNode P)),
    FilterNode.ofValue v = .ok ns → IsFilter v ns
  | .array items, ns, h => .list (isFilters_of_ofItems items ns h)
  | .object ms, ns, h => by
    rcases holdsGroup_or_not ms with hnone | ⟨kind, v, hgroup⟩
    · rw [FilterNode.ofValue_criterion hnone] at h
      obtain ⟨c, hc, rfl⟩ := map_eq_ok_iff.mp h
      exact .criterion hnone (Criterion.ofMembers_eq_ok_iff.mp hc)
    · rw [FilterNode.ofValue_group hgroup] at h
      obtain ⟨ns, hns, rfl⟩ := map_eq_ok_iff.mp h
      exact .group hgroup (isFilter_of_member ms hgroup.2 hns)
  | .null, ns, h | .bool _, ns, h | .number _, ns, h | .string _, ns, h => by cases h

theorem isFilters_of_ofItems : ∀ (items : List Json.Value) (ns : List (FilterNode P)),
    FilterNode.ofItems items = .ok ns → IsFilters items ns
  | [], ns, h => by
    cases h
    exact .nil
  | v :: vs, ns, h => by
    obtain ⟨head, hhead, h⟩ := bind_eq_ok_iff.mp h
    obtain ⟨tail, htail, h⟩ := bind_eq_ok_iff.mp h
    cases h
    exact .cons (isFilter_of_ofValue v head hhead) (isFilters_of_ofItems vs tail htail)

-- The recursion is on the members: what `member?` finds among them is not visibly smaller.
theorem isFilter_of_member {key : String} {v : Json.Value} {ns : List (FilterNode P)} :
    ∀ ms : List (String × Json.Value), Json.member? key ms = some v →
      FilterNode.ofValue v = .ok ns → IsFilter v ns
  | (k, w) :: rest, hv, h => by
    rw [Json.member?] at hv
    split at hv
    · cases hv
      exact isFilter_of_ofValue _ ns h
    · exact isFilter_of_member rest hv h

end

mutual

theorem ofValue_of_isFilter : ∀ {v : Json.Value} {ns : List (FilterNode P)},
    IsFilter v ns → FilterNode.ofValue v = .ok ns
  | _, _, .list each => ofItems_of_isFilters each
  | _, _, .group holds inner => by
    rw [FilterNode.ofValue_group holds, ofValue_of_isFilter inner]
    rfl
  | _, _, .criterion holds spelled => by
    rw [FilterNode.ofValue_criterion holds, Criterion.ofMembers_eq_ok_iff.mpr spelled]
    rfl

theorem ofItems_of_isFilters : ∀ {items : List Json.Value} {ns : List (FilterNode P)},
    IsFilters items ns → FilterNode.ofItems items = .ok ns
  | _, _, .nil => rfl
  | _, _, .cons head tail => by
    rw [FilterNode.ofItems, ofValue_of_isFilter head, ofItems_of_isFilters tail]
    rfl

end

/-! ## Lists in lists -/

/-- Values that differ in how the lists of a filter are nested or split. -/
inductive Regrouped : Json.Value → Json.Value → Prop
  | refl (v : Json.Value) : Regrouped v v
  | symm {v w : Json.Value} (h : Regrouped v w) : Regrouped w v
  | trans {u v w : Json.Value} (h : Regrouped u v) (h' : Regrouped v w) : Regrouped u w
  | single (v : Json.Value) : Regrouped (.array [v]) v
  | spread (before items after : List Json.Value) :
      Regrouped (.array (before ++ .array items :: after)) (.array (before ++ items ++ after))
  | item (before after : List Json.Value) {v w : Json.Value} (h : Regrouped v w) :
      Regrouped (.array (before ++ v :: after)) (.array (before ++ w :: after))
  | member (before after : List (String × Json.Value)) (kind : GroupKind) {v w : Json.Value}
      (h : Regrouped v w) : Regrouped (.object (before ++ (kind.key, v) :: after))
        (.object (before ++ (kind.key, w) :: after))

theorem FilterNode.ofItems_append (vs ws : List Json.Value) :
    FilterNode.ofItems (P := P) (vs ++ ws) = do
      let ns ← ofItems vs
      let ms ← ofItems ws
      return ns ++ ms := by
  induction vs with
  | nil => exact (bind_pure (ofItems ws)).symm
  | cons v vs ih =>
    simp only [List.cons_append, ofItems, ih, bind_assoc, pure_bind, List.append_assoc]

theorem FilterNode.ofItems_singleton (v : Json.Value) :
    FilterNode.ofItems (P := P) [v] = ofValue v := by
  rw [ofItems, ofItems]
  cases ofValue (P := P) v with
  | error e => rfl
  | ok ns => exact congrArg Except.ok (List.append_nil ns)

theorem FilterNode.underKey_congr {v w : Json.Value}
    (h : FilterNode.ofValue (P := P) v = ofValue w) (key k : String)
    (before after : List (String × Json.Value)) :
    FilterNode.underKey (P := P) key (before ++ (k, v) :: after) =
      underKey key (before ++ (k, w) :: after) := by
  induction before with
  | nil => rw [List.nil_append, List.nil_append, underKey, underKey, h]
  | cons m before ih => rw [List.cons_append, List.cons_append, underKey, underKey, ih]

theorem FilterNode.underKey_isSome (key : String) (before after : List (String × Json.Value))
    (v : Json.Value) :
    ∃ r, FilterNode.underKey (P := P) key (before ++ (key, v) :: after) = some r := by
  induction before with
  | nil => exact ⟨_, if_pos rfl⟩
  | cons m before ih =>
    rw [List.cons_append, underKey]
    split
    · exact ⟨_, rfl⟩
    · exact ih

/-- The nodes are the same, and so is the first fault. -/
theorem FilterNode.ofValue_of_regrouped {v w : Json.Value} (h : Regrouped v w) :
    FilterNode.ofValue (P := P) v = ofValue w := by
  induction h with
  | refl v => rfl
  | symm _ ih => exact ih.symm
  | trans _ _ ih ih' => exact ih.trans ih'
  | single v => rw [ofValue, ofItems_singleton]
  | spread before items after =>
    rw [ofValue, ofValue, List.append_assoc, ofItems_append, ofItems_append before, ofItems,
      ofItems_append items, ofValue]
  | item before after _ ih =>
    rw [ofValue, ofValue, ofItems_append, ofItems_append, ofItems, ofItems, ih]
  | @member before after kind v w _ ih =>
    -- The object has a group key, so its members are never read as a criterion.
    have hkeys := fun key => underKey_congr ih key kind.key before after
    obtain ⟨r, hr⟩ := underKey_isSome (P := P) kind.key before after w
    cases kind <;> simp only [ofValue, hkeys, hr]

/-- A filter is accepted exactly if it can be derived and is small enough, and its nodes are those
of the derivation. Lists may be nested and split at will. -/
theorem ofValue_iff_grammar :
    (∀ (v : Json.Value) (ns : List (FilterNode P)),
      (∃ f : Filter P, Filter.ofValue v = .ok f ∧ f.nodes = ns) ↔
        IsFilter v ns ∧ (compileNodes ns).size ≤ maxFilterNodes) ∧
    ∀ v w : Json.Value, Regrouped v w →
      (Filter.ofValue v : Except QueryError (Filter P)) = Filter.ofValue w := by
  refine ⟨fun v ns => ?_, fun v w h => ?_⟩
  · constructor
    · rintro ⟨f, hf, rfl⟩
      exact ⟨isFilter_of_ofValue v _ (nodes_of_ofValue hf), f.bounded⟩
    · rintro ⟨hns, hsize⟩
      refine ⟨⟨ns, hsize⟩, ?_, rfl⟩
      rw [Filter.ofValue, ofValue_of_isFilter hns]
      exact dif_pos hsize
  · rw [Filter.ofValue, Filter.ofValue, FilterNode.ofValue_of_regrouped h]

end

/-- A criterion beside a disjunction, with and without needless lists. -/
def nestedFilter : Json.Value :=
  .array [.array [acme], .object [("not", .null), ("or", .array [.array [anyCurrency], noClient])]]
where
  acme : Json.Value := .object
    [("property", .string "client"), ("operator", .string "LIKE"), ("value", .string "acme%")]
  anyCurrency : Json.Value := .object
    [("property", .string "currency"), ("operator", .string "not_in"), ("value", .array [])]
  noClient : Json.Value := .object [("property", .string "client"), ("operator", .string "=")]

def flatFilter : Json.Value :=
  .array [nestedFilter.acme, .object
    [("not", .null), ("or", .array [nestedFilter.anyCurrency, nestedFilter.noClient])]]

theorem nested_filter_is_flat : ∃ f : Filter AccountProperty,
    Filter.ofValue nestedFilter = .ok f ∧ Filter.ofValue flatFilter = .ok f ∧
    f.nodes.length = 2 ∧ IsFilter flatFilter f.nodes := by
  have hinner : Regrouped (.array [.array [nestedFilter.anyCurrency], nestedFilter.noClient])
      (.array [nestedFilter.anyCurrency, nestedFilter.noClient]) := .item [] _ (.single _)
  have hregrouped : Regrouped nestedFilter flatFilter :=
    .trans (.item [] _ (.single _)) (.item [nestedFilter.acme] []
      (.member [("not", .null)] [] .or hinner))
  have accepted : (Filter.ofValue flatFilter : Except QueryError
      (Filter AccountProperty)).toOption.any (fun f => f.nodes.length == 2) = true := by decide
  obtain ⟨f, h, hlength⟩ := exists_ok_of_any accepted
  obtain ⟨hgrammar, hsame⟩ := ofValue_iff_grammar (P := AccountProperty)
  have hderived := (hgrammar flatFilter f.nodes).mp ⟨f, h, rfl⟩
  exact ⟨f, (hsame _ _ hregrouped).trans h, h, eq_of_beq hlength, hderived.1⟩

end AccountRegistry
