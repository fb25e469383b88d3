import AccountRegistry.Proofs.Result
import AccountRegistry.Service.Listing

/-! # Parameters of a listing

A query names parameters and gives them values. Unless a parameter of the listing is named twice,
each of them gets the value that stands by its name, and all other names are passed over.
-/

namespace AccountRegistry

/-- What a listing can be asked for with. -/
inductive ListingParam | filter | sort | page | size
  deriving DecidableEq, Repr

namespace ListingParam

def name : ListingParam → String
  | .filter => "filter"
  | .sort => "sort"
  | .page => "page"
  | .size => "size"

theorem name_injective {p p' : ListingParam} (h : p.name = p'.name) : p = p' := by
  revert h
  cases p <;> cases p' <;> decide

end ListingParam

def textPair (pair : List Char × List Char) : String × String :=
  (String.ofList pair.1, String.ofList pair.2)

/-- The names and values of a query, decoded. -/
def queryPairs (query : List Char) : List (String × String) :=
  (Text.Percent.formPairs (Text.Utf8.encode query)).map textPair

namespace ListingTexts

def get (t : ListingTexts) : ListingParam → Option String
  | .filter => t.filter
  | .sort => t.sort
  | .page => t.page
  | .size => t.size

def put (t : ListingTexts) (p : ListingParam) (value : String) : ListingTexts :=
  match p with
  | .filter => { t with filter := value }
  | .sort => { t with sort := value }
  | .page => { t with page := value }
  | .size => { t with size := value }

theorem ext_get {t t' : ListingTexts} (h : ∀ p, t.get p = t'.get p) : t = t' := by
  obtain ⟨filter, sort, page, size⟩ := t
  rw [mk.injEq]
  exact ⟨h .filter, h .sort, h .page, h .size⟩

theorem get_put (t : ListingTexts) (p p' : ListingParam) (value : String) :
    (t.put p value).get p' = if p = p' then some value else t.get p' := by
  cases p <;> cases p' <;> rfl

@[simp] theorem get_none (p : ListingParam) : none.get p = .none := by
  cases p <;> rfl

theorem accept_name (t : ListingTexts) (p : ListingParam) (value : String) :
    t.accept p.name value =
      if (t.get p).isSome = true then .error p.name else .ok (t.put p value) := by
  cases p <;> rfl

theorem accept_other {t : ListingTexts} {name : String} (h : ∀ p : ListingParam, p.name ≠ name)
    (value : String) : t.accept name value = .ok t := by
  unfold accept
  rw [if_neg (show name ≠ "filter" from (h .filter).symm),
    if_neg (show name ≠ "sort" from (h .sort).symm),
    if_neg (show name ≠ "page" from (h .page).symm),
    if_neg (show name ≠ "size" from (h .size).symm)]

/-- The values that stand by the names of the parameters. -/
def ofPairs (pairs : List (String × String)) : ListingTexts where
  filter := pairs.lookup "filter"
  sort := pairs.lookup "sort"
  page := pairs.lookup "page"
  size := pairs.lookup "size"

theorem get_ofPairs (pairs : List (String × String)) (p : ListingParam) :
    (ofPairs pairs).get p = pairs.lookup p.name := by
  cases p <;> rfl

/-- A parameter is taken in once, be it before or among some pairs. -/
def Once (t : ListingTexts) (pairs : List (String × String)) : Prop :=
  ∀ p : ListingParam, (t.get p).isSome.toNat + (pairs.map Prod.fst).count p.name ≤ 1

theorem Once.tail {t : ListingTexts} {pair : String × String} {pairs : List (String × String)}
    (h : t.Once (pair :: pairs)) : t.Once pairs := by
  intro p
  have := h p
  rw [List.map_cons, List.count_cons] at this
  omega

/-- The first pair fills an empty slot, which no later pair is for. -/
theorem Once.put {t : ListingTexts} {p : ListingParam} {value : String}
    {pairs : List (String × String)} (h : t.Once ((p.name, value) :: pairs)) :
    t.get p = .none ∧ pairs.lookup p.name = .none ∧ (t.put p value).Once pairs := by
  have hp := h p
  rw [List.map_cons, List.count_cons_self] at hp
  have hslot : t.get p = .none := by
    cases hget : t.get p with
    | none => rfl
    | some v =>
      rw [hget, Option.isSome_some, Bool.toNat_true] at hp
      omega
  have hcount : (pairs.map Prod.fst).count p.name = 0 := by omega
  refine ⟨hslot, ?_, fun p' => ?_⟩
  · rw [List.lookup_eq_none_iff]
    intro pair hpair
    have hne : p.name ≠ pair.1 := fun he =>
      List.count_eq_zero.mp hcount (he ▸ List.mem_map_of_mem hpair)
    simpa using hne
  · rw [get_put]
    split
    · next heq =>
      subst heq
      simp [hcount]
    · exact h.tail p'

theorem acceptAll_of_once {t : ListingTexts} {pairs : List (List Char × List Char)}
    (h : t.Once (pairs.map textPair)) : ∃ t', t.acceptAll pairs = .ok t' ∧
      ∀ p, t'.get p = (t.get p).or ((pairs.map textPair).lookup p.name) := by
  -- The slots filled so far count as occurrences, so that `Once` passes from pair to pair.
  induction pairs generalizing t with
  | nil => exact ⟨t, rfl, fun p => (Option.or_none).symm⟩
  | cons pair pairs ih =>
    obtain ⟨name, value⟩ := pair
    unfold acceptAll
    by_cases hname : ∃ p : ListingParam, p.name = String.ofList name
    · obtain ⟨p, hp⟩ := hname
      rw [List.map_cons, textPair, ← hp] at h
      obtain ⟨hslot, hlookup, hrest⟩ := h.put
      obtain ⟨t', ht', hget⟩ := ih hrest
      refine ⟨t', ?_, fun p' => ?_⟩
      · rw [← hp, accept_name, hslot]
        exact ht'
      · rw [hget, get_put, List.map_cons, textPair, ← hp, List.lookup_cons]
        by_cases heq : p = p'
        · subst heq
          simp [hslot]
        · have hne : (p'.name == p.name) = false :=
            beq_eq_false_iff_ne.mpr fun he => heq (ListingParam.name_injective he.symm)
          rw [if_neg heq, hne]
    · obtain ⟨t', ht', hget⟩ := ih h.tail
      refine ⟨t', ?_, fun p' => ?_⟩
      · rw [accept_other fun p hp => hname ⟨p, hp⟩]
        exact ht'
      · have hne : (p'.name == String.ofList name) = false :=
          beq_eq_false_iff_ne.mpr fun he => hname ⟨p', he⟩
        rw [hget, List.map_cons, textPair, List.lookup_cons, hne]

/-- Without repetitions every parameter is read off the pairs of the query. -/
theorem ofQuery_of_once {query : List Char}
    (h : ∀ p : ListingParam, ((queryPairs query).map Prod.fst).count p.name ≤ 1) :
    ofQuery query = .ok (ofPairs (queryPairs query)) := by
  have honce : none.Once (queryPairs query) := fun p => by
    rw [get_none]
    simpa using h p
  obtain ⟨t, ht, hget⟩ := acceptAll_of_once honce
  have hpairs : t = ofPairs (queryPairs query) := ext_get fun p => by
    rw [hget, get_none, get_ofPairs]
    rfl
  rw [ofQuery, ht, hpairs]

end ListingTexts

end AccountRegistry
