import AccountRegistry.Proofs.Names
import AccountRegistry.Proofs.Result
import AccountRegistry.Proofs.Store.Visibility

/-! # Sorts

A sort is read from objects in lists, nested at will, from left to right. Names count in either
letter case, and a Kelvin sign is no letter of them. The first expression orders the rows of a
store, each later one those that still tie, and identifiers the rest.
-/

namespace AccountRegistry

/-! ## Names -/

theorem AccountSortKey.resolve_eq_ok_iff {s : String} {k : AccountSortKey} :
    SortProperty.resolve s = .ok k ↔ s.map Char.toLower = k.name := by
  have hlower : Text.lower s = k.name ↔ s.map Char.toLower = k.name := by
    refine Text.lower_eq_iff_map ?_ (.inr ?_) <;> cases k <;> decide
  have hname : Function.Injective AccountSortKey.name := fun k l => by
    cases k <;> cases l <;> decide
  rw [← hlower]
  exact resolveProperty_eq_ok_iff (fun k => by cases k <;> decide) hname

theorem SortDirection.read_eq_ok_iff {s : String} {d : SortDirection} :
    read s = .ok d ↔ s.map Char.toLower = d.name := by
  have hlower : Text.lower s = d.name ↔ s.map Char.toLower = d.name := by
    refine Text.lower_eq_iff_map ?_ (.inr ?_) <;> cases d <;> decide
  rw [← hlower]
  unfold read
  dsimp only
  split_ifs with hasc hdesc
  · rw [hasc]
    cases d <;> simp [name]
  · rw [hdesc]
    cases d <;> simp [name]
  · cases d <;> simp [name, hasc, hdesc]

/-! ## Grammar -/

/-- A member that is missing or null stands for a fallback, and a text for what it names but for the
letter case. -/
inductive IsNamed {α : Type} (name : α → String) (fallback : α) : Option Json.Value → α → Prop
  | missing : IsNamed name fallback none fallback
  | null : IsNamed name fallback (some .null) fallback
  | text {s : String} {x : α} (spelled : s.map Char.toLower = name x) :
      IsNamed name fallback (some (.string s)) x

/-- The members of an object that make an expression; other members do not matter. -/
inductive IsExpression : Json.Value → SortExpression AccountSortKey → Prop
  | object {ms : List (String × Json.Value)} {e : SortExpression AccountSortKey}
      (property : IsNamed AccountSortKey.name .modified (Json.member? "property" ms) e.property)
      (direction : IsNamed SortDirection.name .desc (Json.member? "direction" ms) e.direction) :
      IsExpression (.object ms) e

/-- A named member as it is read: a value that is neither text nor null is a fault. -/
def readNamed {α : Type} (read : String → Except QueryError α) (fallback : α) (fault : QueryError) :
    Option Json.Value → Except QueryError α
  | some (.string s) => read s
  | none | some .null => .ok fallback
  | some _ => .error fault

theorem readNamed_eq_ok_iff {α : Type} {name : α → String} {read : String → Except QueryError α}
    (hread : ∀ s x, read s = .ok x ↔ s.map Char.toLower = name x) {fallback x : α}
    {fault : QueryError} {v : Option Json.Value} :
    readNamed read fallback fault v = .ok x ↔ IsNamed name fallback v x := by
  constructor
  · intro h
    match v with
    | none | some .null =>
      cases h
      constructor
    | some (.string s) => exact .text ((hread s x).mp h)
    | some (.bool _) | some (.number _) | some (.array _) | some (.object _) => cases h
  · intro h
    cases h with
    | missing => rfl
    | null => rfl
    | text spelled => exact (hread _ x).mpr spelled

namespace SortExpression

theorem ofMembers_eq {P : Type} [SortProperty P] (ms : List (String × Json.Value)) :
    (ofMembers ms : Except QueryError (SortExpression P)) = do
      let p ← readNamed SortProperty.resolve SortProperty.default.1
        (.malformed "sort 'property' must be a string") (Json.member? "property" ms)
      let d ← readNamed SortDirection.read .desc
        (.malformed "sort 'direction' must be a string") (Json.member? "direction" ms)
      return ⟨p, d⟩ := by
  unfold ofMembers
  rcases Json.member? "property" ms with _ | (_ | _ | _ | _ | _ | _) <;>
    rcases Json.member? "direction" ms with _ | (_ | _ | _ | _ | _ | _) <;> rfl

theorem ofMembers_eq_ok_iff {ms : List (String × Json.Value)} {e : SortExpression AccountSortKey} :
    ofMembers ms = .ok e ↔ IsExpression (.object ms) e := by
  rw [ofMembers_eq]
  simp only [bind_eq_ok_iff, readNamed_eq_ok_iff fun _ _ => AccountSortKey.resolve_eq_ok_iff,
    readNamed_eq_ok_iff fun _ _ => SortDirection.read_eq_ok_iff]
  constructor
  · rintro ⟨p, hp, d, hd, h⟩
    cases h
    exact .object hp hd
  · rintro ⟨hp, hd⟩
    exact ⟨_, hp, _, hd, rfl⟩

end SortExpression

/-! ## Lists -/

mutual

/-- What is in the lists of a value, and in the lists in them, from left to right. -/
def Json.Value.leaves : Json.Value → List Json.Value
  | .array items => leavesAll items
  | v => [v]

def Json.Value.leavesAll : List Json.Value → List Json.Value
  | [] => []
  | v :: vs => v.leaves ++ leavesAll vs

end

example (a b c : Json.Value) :
    (Json.Value.array [.array [a, .array []], .array [.array [b], c]]).leaves =
      (Json.Value.array [a, b, c]).leaves := by
  simp [Json.Value.leaves, Json.Value.leavesAll]

namespace SortExpression

/-- The expression of an object, and the reason why other values are none. -/
def ofLeaf {P : Type} [SortProperty P] : Json.Value → Except QueryError (SortExpression P)
  | .object ms => ofMembers ms
  | v => .error (.malformed s!"sort must be an object or an array, got {v.print}")

section

variable {P : Type} [SortProperty P]

mutual

/-- Expressions are read one by one, in the order in which they stand. -/
theorem ofValue_eq_mapM : ∀ v : Json.Value,
    (ofValue v : Except QueryError (SortOrder P)) = v.leaves.mapM ofLeaf
  | .array items => by rw [ofValue, Json.Value.leaves, ofItems_eq_mapM items]
  | .object ms => by
    have hleaves : (Json.Value.object ms).leaves = [.object ms] := rfl
    rw [ofValue, hleaves, List.mapM_cons, List.mapM_nil, ofLeaf]
    cases ofMembers (P := P) ms <;> rfl
  | .null | .bool _ | .number _ | .string _ => rfl

theorem ofItems_eq_mapM : ∀ vs : List Json.Value,
    (ofItems vs : Except QueryError (SortOrder P)) = (Json.Value.leavesAll vs).mapM ofLeaf
  | [] => rfl
  | v :: vs => by
    rw [ofItems, Json.Value.leavesAll, List.mapM_append, ofValue_eq_mapM v, ofItems_eq_mapM vs]

end

end

theorem ofLeaf_eq_ok_iff {v : Json.Value} {e : SortExpression AccountSortKey} :
    ofLeaf v = .ok e ↔ IsExpression v e := by
  cases v with
  | object ms => exact ofMembers_eq_ok_iff
  | _ => exact iff_of_false nofun nofun

theorem ofValue_eq_ok_iff {v : Json.Value} {es : SortOrder AccountSortKey} :
    ofValue v = .ok es ↔ List.Forall₂ IsExpression v.leaves es := by
  rw [ofValue_eq_mapM, mapM_eq_ok_iff]
  simp only [ofLeaf_eq_ok_iff]

/-! ## Clauses -/

variable (e : SortExpression AccountSortKey)

/-- The clause that an expression makes. -/
def clause : SortClause := .ofField e.property.field e.direction

end SortExpression

theorem SortOrder.apply_eq (es : SortOrder AccountSortKey) (q : Query) :
    es.apply q = { q with order := q.order ++ es.map SortExpression.clause } := by
  have hcompile : es.compile = es.map SortExpression.clause :=
    List.flatMap_pure_eq_map SortExpression.clause es
  rw [apply, Query.foldl_orderBy, hcompile]

/-! ## Rows -/

/-- The moment that rows are sorted by. -/
def AccountSortKey.instant : AccountSortKey → Account → Int
  | .created, a => a.created.nanos
  | .modified, a => a.modified.nanos

namespace SortExpression

variable {e : SortExpression AccountSortKey} {a b : Account}

/-- One row comes strictly before another: the earlier one, or descending the later one. -/
def Before (e : SortExpression AccountSortKey) (a b : Account) : Prop :=
  match e.direction with
  | .asc => e.property.instant a < e.property.instant b
  | .desc => e.property.instant b < e.property.instant a

theorem compare_field (k : AccountSortKey) (a b : Account) :
    k.field.compare a b = compare (k.instant a) (k.instant b) := by
  cases k <;> rfl

theorem compare_clause_eq_lt_iff : e.clause.compare a b = .lt ↔ e.Before a b := by
  unfold Before
  cases h : e.direction with
  | asc =>
    rw [SortClause.compare_asc h, clause, SortClause.ofField, compare_field, Int.compare_eq_lt]
  | desc =>
    have hflip : e.clause.compare a b = e.property.field.compare b a :=
      congrFun (congrFun (SortClause.compare_desc h) a) b
    rw [hflip, compare_field, Int.compare_eq_lt]

theorem compare_clause_eq_eq_iff :
    e.clause.compare a b = .eq ↔ e.property.instant a = e.property.instant b := by
  rw [SortClause.compare_eq_eq_iff, clause, SortClause.ofField, compare_field,
    Std.compare_eq_iff_eq]

end SortExpression

/-- The order of expressions on rows: the first that tells two apart decides, and their identifiers
if none does. -/
def SortOrder.Puts : SortOrder AccountSortKey → Account → Account → Prop
  | [], a, b => a.id.toNat < b.id.toNat
  | e :: es, a, b =>
    e.Before a b ∨ e.property.instant a = e.property.instant b ∧ Puts es a b

theorem SortOrder.precedes_iff_puts {es : SortOrder AccountSortKey} {a b : Account} :
    Precedes (es.map SortExpression.clause) a b ↔ es.Puts a b := by
  induction es with
  | nil =>
    rw [List.map_nil, precedes_iff]
    simp [compareRows, Puts, Uuid.compare, Nat.compare_eq_lt]
  | cons e es ih =>
    have hfirst : compareRows a b [e.clause] = e.clause.compare a b := by
      rw [compareRows_cons]
      exact Ordering.then_eq
    rw [List.map_cons, ← List.singleton_append, precedes_append, hfirst,
      SortExpression.compare_clause_eq_lt_iff, SortExpression.compare_clause_eq_eq_iff, ih]
    rfl

namespace MemoryStore

theorem eq_select_apply_iff (s : MemoryStore) (es : SortOrder AccountSortKey) (q : Query)
    (rows : List Account) : rows = select s.rows (es.apply q) ↔
      rows.Perm (s.rows.filter q.predicate.matches) ∧ rows.Pairwise fun a b =>
        compareRows a b q.order = .lt ∨ compareRows a b q.order = .eq ∧ es.Puts a b := by
  have horder : Precedes (q.order ++ es.map SortExpression.clause) = fun a b =>
      compareRows a b q.order = .lt ∨ compareRows a b q.order = .eq ∧ es.Puts a b := by
    funext a b
    rw [precedes_append, SortOrder.precedes_iff_puts]
  rw [SortOrder.apply_eq, eq_select_iff s.distinct, horder]
  rfl

theorem eq_fetch_query_iff (s : MemoryStore) (l : Listing) (rows : List Account) :
    rows = s.fetch l.query ↔
      rows.Perm (s.rows.filter (l.filter.apply .active).predicate.matches) ∧
        rows.Pairwise l.sort.Puts := by
  have horder : (l.filter.apply .active).order = [] := by
    rw [Filter.apply]
    split <;> rfl
  rw [fetch_query, Listing.query, eq_select_apply_iff, horder]
  simp [compareRows]

end MemoryStore

/-- A sort is read exactly if all that is in its lists are objects that make expressions, and they
are its expressions, however the lists are nested. Each adds one clause behind those of a query.
The rows of a store then come in the order that the query had, ties in that of the expressions, and
those of a listing in that of its sort. -/
theorem sort_reads_and_orders :
    (∀ (v : Json.Value) (es : SortOrder AccountSortKey),
      SortExpression.ofValue v = .ok es ↔ List.Forall₂ IsExpression v.leaves es) ∧
    (∀ v w : Json.Value, v.leaves = w.leaves →
      (SortExpression.ofValue v : Except QueryError (SortOrder AccountSortKey)) =
        SortExpression.ofValue w) ∧
    (∀ (es : SortOrder AccountSortKey) (q : Query),
      es.apply q = { q with order := q.order ++ es.map SortExpression.clause } ∧
      ∀ (s : MemoryStore) (rows : List Account), rows = MemoryStore.select s.rows (es.apply q) ↔
        rows.Perm (s.rows.filter q.predicate.matches) ∧ rows.Pairwise fun a b =>
          compareRows a b q.order = .lt ∨ compareRows a b q.order = .eq ∧ es.Puts a b) ∧
    ∀ (l : Listing) (s : MemoryStore) (rows : List Account), rows = s.fetch l.query ↔
      rows.Perm (s.rows.filter (l.filter.apply .active).predicate.matches) ∧
        rows.Pairwise l.sort.Puts := by
  refine ⟨fun v es => SortExpression.ofValue_eq_ok_iff, fun v w h => ?_, fun es q => ?_,
    fun l s rows => s.eq_fetch_query_iff l rows⟩
  · rw [SortExpression.ofValue_eq_mapM, SortExpression.ofValue_eq_mapM, h]
  · exact ⟨es.apply_eq q, fun s rows => s.eq_select_apply_iff es q rows⟩

/-- An object that asks for nothing and one in needless lists. -/
theorem nested_sort_reads_and_orders :
    let created := Json.Value.object
      [("direction", .string "Asc"), ("property", .string "CREATED")]
    let es : SortOrder AccountSortKey := [⟨.modified, .desc⟩, ⟨.created, .asc⟩]
    SortExpression.ofValue (.array [.object [], .array [.array [], .array [created]]]) = .ok es ∧
    SortExpression.ofValue (.array [.object [], created]) = .ok es ∧
    (es.apply .active).order = [.ofField .modified .desc, .ofField .created .asc] ∧
    (MemoryStore.select MemoryStore.sampleStore.rows (es.apply .active)).Pairwise es.Puts := by
  intro created es
  obtain ⟨hread, hsame, horder, -⟩ := sort_reads_and_orders
  have hflat : SortExpression.ofValue (.array [.object [], created]) = .ok es :=
    (hread _ _).mpr (.cons (.object .missing .missing)
      (.cons (.object (.text (by decide +kernel)) (.text (by decide +kernel))) .nil))
  obtain ⟨happly, hrows⟩ := horder es .active
  refine ⟨(hsame _ _ rfl).trans hflat, hflat, by rw [happly]; rfl, ?_⟩
  refine ((hrows MemoryStore.sampleStore _).mp rfl).2.imp fun {a b} h => ?_
  exact h.elim nofun And.right

end AccountRegistry
