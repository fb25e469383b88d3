import AccountRegistry.Proofs.Listing.Parameters
import AccountRegistry.Proofs.Service.Refusal
import AccountRegistry.Proofs.Text.Numeral
import AccountRegistry.Settings.Check

/-! # Acceptance of listings

A listing is accepted exactly if each of its parameters is valid by itself. Otherwise the refusal
names invalid parameters only, each once and in order, and no account has been read for it.
-/

namespace AccountRegistry

open Decimal

/-! ## Numbers -/

/-- The number that a parameter stands for, or another one where it is missing. -/
def StandsFor (raw : Option String) (missing n : UInt32) : Prop :=
  match raw with
  | none => n = missing
  | some text => IsPaddedNumeral text.toList n.toNat

theorem readPositive_eq_ok_iff (param : String) {raw : Option String} {missing n : UInt32} :
    readPositive param raw missing = .ok n ↔ StandsFor raw missing n := by
  cases raw with
  | none =>
    unfold readPositive StandsFor
    rw [Except.ok.injEq]
    exact eq_comm
  | some text =>
    have hread : natural64? (Text.trim text.toList) = some n.toNat ↔
        IsPaddedNumeral text.toList n.toNat :=
      natural64?_trim_eq_some_iff.trans (and_iff_left (Nat.lt_trans n.toNat_lt (by decide)))
    unfold readPositive StandsFor
    dsimp only
    rw [← hread]
    cases natural64? (Text.trim text.toList) with
    | none => exact ⟨nofun, nofun⟩
    | some m =>
      dsimp only
      rw [Option.some.injEq]
      split
      · next hm =>
        rw [Except.ok.injEq]
        constructor
        · rintro rfl
          exact (UInt32.toNat_ofNat_of_lt' hm).symm
        · rintro rfl
          exact UInt32.ofNat_toNat
      · next hm =>
        refine ⟨nofun, ?_⟩
        rintro rfl
        exact absurd n.toNat_lt hm

theorem param_of_readPositive {param : String} {raw : Option String} {missing : UInt32}
    {e : ParamError} (h : readPositive param raw missing = .error e) : e.param = param := by
  unfold readPositive at h
  split at h
  · cases h
  · split at h
    · split at h
      · cases h
      · cases h
        rfl
    · cases h
      rfl

theorem PageRequest.check_eq_ok_iff {page size max : UInt32} {r : PageRequest} :
    PageRequest.check page size max = .ok r ↔
      (1 ≤ page ∧ 1 ≤ size ∧ size ≤ max) ∧ r.page = page ∧ r.size = size := by
  unfold PageRequest.check
  obtain ⟨page', size', hpage', hsize'⟩ := r
  split
  · next hpage =>
    split
    · next hsize =>
      rw [Except.ok.injEq, PageRequest.mk.injEq]
      constructor
      · rintro ⟨rfl, rfl⟩
        exact ⟨⟨hpage, hsize⟩, rfl, rfl⟩
      · rintro ⟨-, rfl, rfl⟩
        exact ⟨rfl, rfl⟩
    · next hsize => exact ⟨nofun, fun h => absurd h.1.2 hsize⟩
  · next hpage => exact ⟨nofun, fun h => absurd h.1.1 hpage⟩

/-- The page is looked at before the size. -/
theorem PageRequest.check_eq_error {page size max : UInt32} {e : ParamError}
    (h : PageRequest.check page size max = .error e) :
    e.param = "page" ∧ ¬ 1 ≤ page ∨ e.param = "size" ∧ ¬ (1 ≤ size ∧ size ≤ max) := by
  unfold PageRequest.check at h
  split at h
  · split at h
    · cases h
    · next hsize =>
      cases h
      exact .inr ⟨rfl, hsize⟩
  · next hpage =>
    cases h
    exact .inl ⟨rfl, hpage⟩

/-! ## Parameters -/

/-- A parameter that is fine by itself, whatever the others are. -/
def ListingParam.Valid (pages : PageSettings) (t : ListingTexts) : ListingParam → Prop
  | .filter => ∃ f : Filter AccountProperty, Filter.read t.filter = .ok f
  | .sort => ∃ s : SortOrder AccountSortKey, SortOrder.read t.sort = .ok s
  | .page => ∀ text, t.page = some text →
      ∃ n : UInt32, IsPaddedNumeral text.toList n.toNat ∧ 1 ≤ n
  | .size => ∀ text, t.size = some text →
      ∃ n : UInt32, IsPaddedNumeral text.toList n.toNat ∧ 1 ≤ n ∧ n ≤ pages.maxSize

section

variable {pages : PageSettings} {t : ListingTexts}

/-- Whatever is left out is valid. -/
theorem ListingParam.valid_of_missing {p : ListingParam} (h : t.get p = none) :
    p.Valid pages t := by
  cases p with
  | filter => exact ⟨.none, congrArg Filter.read h⟩
  | sort => exact ⟨.standard, congrArg SortOrder.read h⟩
  | page | size =>
    intro text htext
    exact absurd (h.symm.trans htext) nofun

theorem valid_page_iff : ListingParam.page.Valid pages t ↔
    ∃ n, readPositive "page" t.page 1 = .ok n ∧ 1 ≤ n := by
  simp only [readPositive_eq_ok_iff, ListingParam.Valid]
  cases t.page with
  | none => exact ⟨fun _ => ⟨1, rfl, by decide⟩, fun _ => nofun⟩
  | some text =>
    constructor
    · intro h
      exact h text rfl
    · rintro h _ ⟨⟩
      exact h

theorem valid_size_iff (hpages : 1 ≤ pages.defaultSize ∧ pages.defaultSize ≤ pages.maxSize) :
    ListingParam.size.Valid pages t ↔
      ∃ n, readPositive "size" t.size pages.defaultSize = .ok n ∧ 1 ≤ n ∧ n ≤ pages.maxSize := by
  simp only [readPositive_eq_ok_iff, ListingParam.Valid]
  cases t.size with
  | none => exact ⟨fun _ => ⟨_, rfl, hpages⟩, fun _ => nofun⟩
  | some text =>
    constructor
    · intro h
      exact h text rfl
    · rintro h _ ⟨⟩
      exact h

theorem param_of_forParam {α : Type} {param : String} {r : Except QueryError α} {e : ParamError}
    (h : forParam param r = .error e) : e.param = param := by
  cases r with
  | ok x => cases h
  | error reason =>
    cases h
    rfl

theorem param_of_filterRead {raw : Option String} {e : ParamError}
    (h : (Filter.read raw : Except ParamError (Filter AccountProperty)) = .error e) :
    e.param = "filter" := by
  cases raw with
  | none => cases h
  | some text => exact param_of_forParam h

theorem param_of_sortRead {raw : Option String} {e : ParamError}
    (h : (SortOrder.read raw : Except ParamError (SortOrder AccountSortKey)) = .error e) :
    e.param = "sort" := by
  cases raw with
  | none => cases h
  | some text => exact param_of_forParam h

/-! ## Refusals -/

theorem faultsOf_eq_nil_iff {ε α : Type} {r : Except ε α} : faultsOf r = [] ↔ ∃ x, r = .ok x := by
  cases r with
  | ok x => exact ⟨fun _ => ⟨x, rfl⟩, fun _ => rfl⟩
  | error e => exact ⟨nofun, nofun⟩

/-- Faults that each name another invalid parameter, in the order of some parameters. -/
def Blames (pages : PageSettings) (t : ListingTexts) (es : List ParamError)
    (params : List ListingParam) : Prop :=
  ∃ named : List ListingParam, named.Sublist params ∧
    es.map ParamError.param = named.map ListingParam.name ∧ ∀ p ∈ named, ¬ p.Valid pages t

theorem Blames.append {es es' : List ParamError} {params params' : List ListingParam}
    (h : Blames pages t es params) (h' : Blames pages t es' params') :
    Blames pages t (es ++ es') (params ++ params') := by
  obtain ⟨named, hsub, hnames, hinvalid⟩ := h
  obtain ⟨named', hsub', hnames', hinvalid'⟩ := h'
  refine ⟨named ++ named', hsub.append hsub', ?_, ?_⟩
  · rw [List.map_append, List.map_append, hnames, hnames']
  · exact List.forall_mem_append.mpr ⟨hinvalid, hinvalid'⟩

theorem Blames.nil (params : List ListingParam) : Blames pages t [] params :=
  ⟨[], List.nil_sublist _, rfl, List.forall_mem_nil _⟩

theorem Blames.single {e : ParamError} {p : ListingParam} (hname : e.param = p.name)
    (hinvalid : ¬ p.Valid pages t) : Blames pages t [e] [p] :=
  ⟨[p], List.Sublist.refl _, by simp [hname], List.forall_mem_singleton.mpr hinvalid⟩

/-- The fault of a reading that a valid parameter always passes. -/
theorem Blames.of_reading {α : Type} {r : Except ParamError α} {p : ListingParam}
    (hname : ∀ {e}, r = .error e → e.param = p.name) (hvalid : p.Valid pages t → ∃ x, r = .ok x) :
    Blames pages t (faultsOf r) [p] := by
  cases h : r with
  | ok x => exact .nil _
  | error e =>
    refine .single (hname h) fun hp => ?_
    obtain ⟨x, hx⟩ := hvalid hp
    rw [h] at hx
    cases hx

variable (hpages : 1 ≤ pages.defaultSize ∧ pages.defaultSize ≤ pages.maxSize)

include hpages

/-- Page and size are blamed for what is wrong with them, though not always both. -/
theorem blames_page {es : List ParamError} (h : readPage pages t = .error es) :
    Blames pages t es [.page, .size] := by
  have hpageBlame : Blames pages t (faultsOf (readPositive "page" t.page 1)) [.page] := by
    refine .of_reading param_of_readPositive fun hp => ?_
    obtain ⟨n, hn, -⟩ := valid_page_iff.mp hp
    exact ⟨n, hn⟩
  have hsizeBlame :
      Blames pages t (faultsOf (readPositive "size" t.size pages.defaultSize)) [.size] := by
    refine .of_reading param_of_readPositive fun hp => ?_
    obtain ⟨n, hn, -⟩ := (valid_size_iff hpages).mp hp
    exact ⟨n, hn⟩
  have hboth := hpageBlame.append hsizeBlame
  unfold readPage at h
  split at h
  · next page size hpage hsize =>
    obtain ⟨e, he, rfl⟩ := mapError_eq_error_iff.mp h
    rcases PageRequest.check_eq_error he with ⟨hname, hno⟩ | ⟨hname, hno⟩
    · have hinvalid : ¬ ListingParam.page.Valid pages t := by
        rw [valid_page_iff, hpage]
        rintro ⟨_, ⟨⟩, hvalid⟩
        exact hno hvalid
      exact (Blames.single hname hinvalid).append (.nil [.size])
    · have hinvalid : ¬ ListingParam.size.Valid pages t := by
        rw [valid_size_iff hpages, hsize]
        rintro ⟨_, ⟨⟩, hvalid⟩
        exact hno hvalid
      exact (Blames.nil [.page]).append (.single hname hinvalid)
  -- Where one of them is no number, the faults are those of the two readings.
  all_goals
    next hpage hsize =>
    cases h
    rw [hpage, hsize] at hboth
    exact hboth

omit hpages in
theorem readPage_ne_error_nil : readPage pages t ≠ .error [] := by
  unfold readPage
  split
  · intro h
    obtain ⟨e, -, he⟩ := mapError_eq_error_iff.mp h
    cases he
  all_goals exact nofun

theorem readPage_eq_ok_iff {r : PageRequest} : readPage pages t = .ok r ↔
    ListingParam.page.Valid pages t ∧ ListingParam.size.Valid pages t ∧
      StandsFor t.page 1 r.page ∧ StandsFor t.size pages.defaultSize r.size := by
  rw [valid_page_iff, valid_size_iff hpages, ← readPositive_eq_ok_iff "page",
    ← readPositive_eq_ok_iff "size"]
  unfold readPage
  cases readPositive "page" t.page 1 with
  | error e => cases readPositive "size" t.size pages.defaultSize <;> exact ⟨nofun, nofun⟩
  | ok page =>
    cases readPositive "size" t.size pages.defaultSize with
    | error e => exact ⟨nofun, nofun⟩
    | ok size =>
      dsimp only
      rw [mapError_eq_ok_iff, PageRequest.check_eq_ok_iff]
      grind

end

/-! ## Listings -/

namespace Listing

/-- What a listing holds that was asked for with some texts. -/
structure Reads (pages : PageSettings) (t : ListingTexts) (l : Listing) : Prop where
  filter : Filter.read t.filter = .ok l.filter
  sort : SortOrder.read t.sort = .ok l.sort
  page : StandsFor t.page 1 l.page.page
  size : StandsFor t.size pages.defaultSize l.page.size

variable {pages : PageSettings} {t : ListingTexts}
  (hpages : 1 ≤ pages.defaultSize ∧ pages.defaultSize ≤ pages.maxSize)

include hpages

theorem ofTexts_eq_ok_iff {l : Listing} : ofTexts pages t = .ok l ↔
    (∀ p : ListingParam, p.Valid pages t) ∧ Reads pages t l := by
  constructor
  · intro h
    unfold ofTexts at h
    split at h
    · next f s r hfilter hsort hpage =>
      cases h
      obtain ⟨hvpage, hvsize, hstands, hstands'⟩ := (readPage_eq_ok_iff hpages).mp hpage
      refine ⟨fun p => ?_, hfilter, hsort, hstands, hstands'⟩
      cases p with
      | filter => exact ⟨f, hfilter⟩
      | sort => exact ⟨s, hsort⟩
      | page => exact hvpage
      | size => exact hvsize
    · cases h
  · rintro ⟨hvalid, hreads⟩
    have hpage := (readPage_eq_ok_iff hpages).mpr
      ⟨hvalid .page, hvalid .size, hreads.page, hreads.size⟩
    rw [ofTexts, hreads.filter, hreads.sort, hpage]

/-- Every valid set of parameters makes a listing. -/
theorem exists_ofTexts_eq_ok_iff :
    (∃ l, ofTexts pages t = .ok l) ↔ ∀ p : ListingParam, p.Valid pages t := by
  simp only [ofTexts_eq_ok_iff hpages]
  constructor
  · rintro ⟨l, hvalid, -⟩
    exact hvalid
  · intro hvalid
    obtain ⟨f, hf⟩ := hvalid .filter
    obtain ⟨s, hs⟩ := hvalid .sort
    obtain ⟨page, hpage, hpos⟩ := valid_page_iff.mp (hvalid .page)
    obtain ⟨size, hsize, hsizes⟩ := (valid_size_iff hpages).mp (hvalid .size)
    exact ⟨⟨f, s, page, size, hpos, hsizes.1⟩, hvalid, hf, hs,
      (readPositive_eq_ok_iff "page").mp hpage, (readPositive_eq_ok_iff "size").mp hsize⟩

theorem blames_ofTexts {es : List ParamError} (h : ofTexts pages t = .error es) :
    es ≠ [] ∧ Blames pages t es [.filter, .sort, .page, .size] := by
  unfold ofTexts at h
  split at h
  · cases h
  · next hno =>
    cases h
    constructor
    · intro hnil
      obtain ⟨hnil, hpage⟩ := List.append_eq_nil_iff.mp hnil
      obtain ⟨hfilter, hsort⟩ := List.append_eq_nil_iff.mp hnil
      obtain ⟨f, hf⟩ := faultsOf_eq_nil_iff.mp hfilter
      obtain ⟨s, hs⟩ := faultsOf_eq_nil_iff.mp hsort
      cases hread : readPage pages t with
      | ok r => exact hno f s r hf hs hread
      | error es =>
        rw [hread, faultsOf, List.flatten_singleton] at hpage
        exact readPage_ne_error_nil (hpage ▸ hread)
    · have hfilter : Blames pages t (faultsOf
          (Filter.read t.filter : Except ParamError (Filter AccountProperty))) [.filter] :=
        .of_reading param_of_filterRead id
      have hsort : Blames pages t (faultsOf
          (SortOrder.read t.sort : Except ParamError (SortOrder AccountSortKey))) [.sort] :=
        .of_reading param_of_sortRead id
      refine (hfilter.append hsort).append ?_
      cases hpage : readPage pages t with
      | ok r => exact .nil _
      | error es =>
        rw [faultsOf, List.flatten_singleton]
        exact blames_page hpages hpage

end Listing

/-! ## Settings -/

theorem demand_eq_ok_iff {b : Bool} {fault : SettingsFault} {u : Unit} :
    demand b fault = .ok u ↔ b = true := by
  cases b <;> simp [demand]

theorem PageSettings.bounds_of_check {s : PageSettings} (h : s.check = .ok ()) :
    1 ≤ s.defaultSize ∧ s.defaultSize ≤ s.maxSize := by
  obtain ⟨_, -, h⟩ := bind_eq_ok_iff.mp h
  obtain ⟨_, hzero, hle⟩ := bind_eq_ok_iff.mp h
  rw [demand_eq_ok_iff, bne_iff_ne] at hzero
  rw [demand_eq_ok_iff, decide_eq_true_eq] at hle
  have hpos : s.defaultSize.toNat ≠ 0 := fun h => hzero (UInt32.toNat_inj.mp h)
  exact ⟨UInt32.le_iff_toNat_le.mpr (Nat.one_le_iff_ne_zero.mpr hpos), hle⟩

theorem Settings.pages_check {s : Settings} (h : s.check = .ok ()) : s.pages.check = .ok () := by
  obtain ⟨_, -, h⟩ := bind_eq_ok_iff.mp h
  obtain ⟨_, hpages, -⟩ := bind_eq_ok_iff.mp h
  exact hpages

/-! ## Requests -/

namespace Listing

/-- No parameter of the listing is repeated in a query. -/
def NoneRepeated (query : Option (List Char)) : Prop :=
  ∀ p : ListingParam, ((queryPairs (query.getD [])).map Prod.fst).count p.name ≤ 1

/-- What a query holds for each parameter of the listing. -/
def textsOf (query : Option (List Char)) : ListingTexts :=
  .ofPairs (queryPairs (query.getD []))

theorem ofQuery_eq_ofTexts {query : Option (List Char)} (h : NoneRepeated query)
    (pages : PageSettings) :
    ofQuery pages query = (ofTexts pages (textsOf query)).mapError .ofParams := by
  rw [ofQuery, ListingTexts.ofQuery_of_once h]
  rfl

/-- With checked settings, a query without repetitions is accepted exactly if all its parameters are
valid, and then read as they stand. A refusal names invalid parameters in order, whatever accounts
there are. -/
theorem ofQuery_accepts_valid {s : Settings} (hs : s.check = .ok ()) {query : Option (List Char)}
    (hquery : NoneRepeated query) :
    ((∃ l, ofQuery s.pages query = .ok l) ↔ ∀ p : ListingParam, p.Valid s.pages (textsOf query)) ∧
    (∀ l, ofQuery s.pages query = .ok l → Reads s.pages (textsOf query) l) ∧
    (∀ e, ofQuery s.pages query = .error e →
      ∃ (problems : List Problem) (named : List ListingParam), e = .unprocessable problems ∧
        problems.map Problem.location = (named.map fun p => ["query", p.name]) ∧
        named ≠ [] ∧ named.Sublist [.filter, .sort, .page, .size] ∧
        (∀ p ∈ named, ¬ p.Valid s.pages (textsOf query)) ∧
        ∀ app : App, app.pages = s.pages → App.respond (app.list query) =
          .ofJson 422 (.object [("detail", .array (problems.map Problem.json))])) ∧
    ((∀ p, (textsOf query).get p = none) → ∃ l, ofQuery s.pages query = .ok l) := by
  have hpages := PageSettings.bounds_of_check (Settings.pages_check hs)
  have haccept : (∃ l, ofQuery s.pages query = .ok l) ↔
      ∀ p : ListingParam, p.Valid s.pages (textsOf query) := by
    simp only [ofQuery_eq_ofTexts hquery, mapError_eq_ok_iff]
    exact exists_ofTexts_eq_ok_iff hpages
  refine ⟨haccept, fun l h => ?_, fun e h => ?_, fun hnone => haccept.mpr fun p => ?_⟩
  · rw [ofQuery_eq_ofTexts hquery, mapError_eq_ok_iff] at h
    exact ((ofTexts_eq_ok_iff hpages).mp h).2
  · have hlist : ∀ app : App, app.pages = s.pages → app.list query = .error e := by
      rintro app happ
      rw [App.list, happ, h]
      rfl
    rw [ofQuery_eq_ofTexts hquery] at h
    obtain ⟨es, hes, rfl⟩ := mapError_eq_error_iff.mp h
    obtain ⟨hne, named, hsub, hnames, hinvalid⟩ := blames_ofTexts hpages hes
    refine ⟨es.map Problem.ofParam, named, rfl, ?_, ?_, hsub, hinvalid, fun app happ => ?_⟩
    · have hlocations := congrArg (List.map fun name => ["query", name]) hnames
      rw [List.map_map, List.map_map] at hlocations
      rw [List.map_map]
      exact hlocations
    · rintro rfl
      exact hne (List.map_eq_nil_iff.mp hnames)
    · rw [hlist app happ]
      exact errorResponse_unprocessable _
  · exact ListingParam.valid_of_missing (hnone p)

theorem ofQuery_accepts_page_between_blanks :
    ∃ l, ofQuery Settings.standard.pages (some "x=1&page=+2&x=3".toList) = .ok l ∧
      l.page.size = 50 := by
  have htexts : textsOf (some "x=1&page=+2&x=3".toList) = ⟨none, none, some " 2", none⟩ := by
    decide +kernel
  have hquery : NoneRepeated (some "x=1&page=+2&x=3".toList) := by
    intro p
    cases p <;> decide +kernel
  have hpage : ListingParam.page.Valid Settings.standard.pages ⟨none, none, some " 2", none⟩ := by
    rintro _ ⟨⟩
    have htwo : IsNumeral ['2'] 2 :=
      ⟨[], ['2'], rfl, .inl rfl, by decide, List.forall_mem_singleton.mpr (by decide), rfl⟩
    have hpadded : IsPaddedNumeral " 2".toList 2 :=
      ⟨[' '], ['2'], [], rfl, htwo, List.forall_mem_singleton.mpr (by decide),
        List.forall_mem_nil _⟩
    exact ⟨2, hpadded, by decide⟩
  have hvalid : ∀ p : ListingParam,
      p.Valid Settings.standard.pages ⟨none, none, some " 2", none⟩ := by
    rintro (_ | _ | _ | _)
    case page => exact hpage
    all_goals exact ListingParam.valid_of_missing rfl
  have haccept := ofQuery_accepts_valid (s := .standard) (by decide +kernel) hquery
  rw [htexts] at haccept
  obtain ⟨l, hl⟩ := haccept.1.mpr hvalid
  exact ⟨l, hl, (haccept.2.1 l hl).size⟩

end Listing

end AccountRegistry
