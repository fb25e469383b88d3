import AccountRegistry.Proofs.Listing.Acceptance

/-! # Reports of refusals

A parameter fails if it is refused without the others. A refusal names the failing parameters, but
page and size can mask each other: whether a number is in range is asked only if both of them are
numbers, and of the size only if the page is in range.
-/

namespace AccountRegistry

open Decimal

namespace ListingParam

/-- A parameter that is refused where it comes alone. -/
def Fails (pages : PageSettings) (t : ListingTexts) (p : ListingParam) : Prop :=
  ∃ value, t.get p = some value ∧
    ∀ l, Listing.ofTexts pages (ListingTexts.none.put p value) ≠ .ok l

/-- A parameter that is a number of 32 bits, or left out. -/
def Numeric (t : ListingTexts) (p : ListingParam) : Prop :=
  ∀ text, t.get p = some text → ∃ n : UInt32, IsPaddedNumeral text.toList n.toNat

/-- Another parameter keeps this one from being looked at closely enough to be blamed. -/
def Masked (pages : PageSettings) (t : ListingTexts) : ListingParam → Prop
  | .filter | .sort => False
  | .page => Numeric t .page ∧ ¬ Numeric t .size
  | .size => Numeric t .size ∧ Fails pages t .page

variable {pages : PageSettings} {t : ListingTexts}

/-- Whether a parameter is valid shows in its own text. -/
theorem valid_congr {t' : ListingTexts} {p : ListingParam} (h : t.get p = t'.get p) :
    p.Valid pages t ↔ p.Valid pages t' := by
  cases p with
  | filter => exact iff_of_eq (congrArg (fun raw => ∃ f, Filter.read raw = .ok f) h)
  | sort => exact iff_of_eq (congrArg (fun raw => ∃ s, SortOrder.read raw = .ok s) h)
  | page =>
    unfold Valid
    rw [show t.page = t'.page from h]
  | size =>
    unfold Valid
    rw [show t.size = t'.size from h]

/-- A parameter alone is valid if the others, which are left out, have nothing to say. -/
theorem fails_iff (hpages : 1 ≤ pages.defaultSize ∧ pages.defaultSize ≤ pages.maxSize)
    {p : ListingParam} : p.Fails pages t ↔ ¬ p.Valid pages t := by
  have halone {value : String} (hvalue : t.get p = some value) :
      (∀ p' : ListingParam, p'.Valid pages (ListingTexts.none.put p value)) ↔ p.Valid pages t := by
    have hself : (ListingTexts.none.put p value).get p = t.get p := by
      rw [ListingTexts.get_put, if_pos rfl, hvalue]
    rw [← valid_congr hself]
    refine ⟨fun h => h p, fun h p' => ?_⟩
    by_cases hp : p = p'
    · exact hp ▸ h
    · exact valid_of_missing (by rw [ListingTexts.get_put, if_neg hp, ListingTexts.get_none])
  constructor
  · rintro ⟨value, hvalue, hno⟩ hvalid
    obtain ⟨l, hl⟩ := (Listing.exists_ofTexts_eq_ok_iff hpages).mpr ((halone hvalue).mpr hvalid)
    exact hno l hl
  · intro hinvalid
    cases hvalue : t.get p with
    | none => exact absurd (valid_of_missing hvalue) hinvalid
    | some value =>
      refine ⟨value, hvalue, fun l hl => hinvalid ?_⟩
      exact (halone hvalue).mp ((Listing.exists_ofTexts_eq_ok_iff hpages).mp ⟨l, hl⟩)

theorem numeric_page_iff : Numeric t .page ↔ ∃ n, readPositive "page" t.page 1 = .ok n := by
  simp only [readPositive_eq_ok_iff, Numeric, ListingTexts.get]
  cases t.page with
  | none => exact ⟨fun _ => ⟨1, rfl⟩, fun _ => nofun⟩
  | some text => exact ⟨fun h => h text rfl, fun h _ htext => Option.some.inj htext ▸ h⟩

theorem numeric_size_iff :
    Numeric t .size ↔ ∃ n, readPositive "size" t.size pages.defaultSize = .ok n := by
  simp only [readPositive_eq_ok_iff, Numeric, ListingTexts.get]
  cases t.size with
  | none => exact ⟨fun _ => ⟨_, rfl⟩, fun _ => nofun⟩
  | some text => exact ⟨fun h => h text rfl, fun h _ htext => Option.some.inj htext ▸ h⟩

theorem numeric_size_of_valid (h : ListingParam.size.Valid pages t) : Numeric t .size := by
  intro text htext
  obtain ⟨n, hn, -⟩ := h text htext
  exact ⟨n, hn⟩

/-- Something is masked exactly if page and size both fail and one of them is a number. -/
theorem forall_not_masked_iff
    (hpages : 1 ≤ pages.defaultSize ∧ pages.defaultSize ≤ pages.maxSize) :
    (∀ p : ListingParam, p.Fails pages t → ¬ p.Masked pages t) ↔
      ¬ (Fails pages t .page ∧ Fails pages t .size ∧ (Numeric t .page ∨ Numeric t .size)) := by
  have hsize : Fails pages t .size ∨ Numeric t .size := by
    rw [fails_iff hpages, or_iff_not_imp_left, not_not]
    exact numeric_size_of_valid
  constructor
  · rintro h ⟨hpage, hsize, hnumeric⟩
    have hmasks := h .page hpage
    have hmasked := h .size hsize
    simp only [Masked] at hmasks hmasked
    tauto
  · intro h p hp
    cases p with
    | filter | sort => exact id
    | page =>
      rintro ⟨hnumeric, hno⟩
      exact h ⟨hp, hsize.resolve_right hno, .inl hnumeric⟩
    | size =>
      rintro ⟨hnumeric, hpage⟩
      exact h ⟨hpage, hp, .inr hnumeric⟩

end ListingParam

/-! ## Who is blamed -/

section

variable {pages : PageSettings} {t : ListingTexts}

theorem mem_faults_iff {α : Type} {r : Except ParamError α} {param name : String}
    (hparam : ∀ {e}, r = .error e → e.param = param) :
    name ∈ (faultsOf r).map ParamError.param ↔ name = param ∧ ¬ ∃ x, r = .ok x := by
  cases r with
  | ok x => exact iff_of_false List.not_mem_nil fun h => h.2 ⟨x, rfl⟩
  | error e =>
    have hfails : ¬ ∃ x, (.error e : Except ParamError α) = .ok x := by rintro ⟨_, ⟨⟩⟩
    rw [faultsOf, List.map_singleton, List.mem_singleton, hparam rfl]
    exact (and_iff_left hfails).symm

/-- The range of the size is the last thing to be checked. -/
theorem PageRequest.mem_faults_check_iff {page size max : UInt32} {name : String} :
    name ∈ (faultsOf (PageRequest.check page size max)).map ParamError.param ↔
      name = "page" ∧ ¬ 1 ≤ page ∨ name = "size" ∧ 1 ≤ page ∧ ¬ (1 ≤ size ∧ size ≤ max) := by
  unfold PageRequest.check
  split
  · next hpage =>
    split
    · next hsize => simp [faultsOf, hpage, hsize]
    · next hsize => simp [faultsOf, hpage, hsize]
  · next hpage => simp [faultsOf, hpage]

theorem flatten_faultsOf_mapError {α : Type} (r : Except ParamError α) :
    (faultsOf (r.mapError fun e => [e])).flatten = faultsOf r := by
  cases r <;> rfl

variable (hpages : 1 ≤ pages.defaultSize ∧ pages.defaultSize ≤ pages.maxSize)

include hpages

/-- What is wrong with page and size is reported unless it is masked. -/
theorem mem_faults_readPage_iff {p : ListingParam} :
    p.name ∈ (faultsOf (readPage pages t)).flatten.map ParamError.param ↔
      (p = .page ∨ p = .size) ∧ p.Fails pages t ∧ ¬ p.Masked pages t := by
  have hnames : (p.name = "page" ↔ p = .page) ∧ (p.name = "size" ↔ p = .size) := by
    cases p <;> decide
  have hnpage := ListingParam.numeric_page_iff (t := t)
  have hnsize : ListingParam.Numeric t .size ↔
      ∃ n, readPositive "size" t.size pages.defaultSize = .ok n := ListingParam.numeric_size_iff
  have hfpage := (ListingParam.fails_iff hpages).trans (not_congr (valid_page_iff (t := t)))
  have hfsize := (ListingParam.fails_iff hpages).trans (not_congr (valid_size_iff (t := t) hpages))
  unfold readPage
  cases hpage : readPositive "page" t.page 1 with
  | ok page =>
    cases hsize : readPositive "size" t.size pages.defaultSize with
    | ok size =>
      simp only [hpage, hsize, Except.ok.injEq, exists_eq', exists_eq_left']
        at hnpage hnsize hfpage hfsize
      dsimp only
      rw [flatten_faultsOf_mapError, PageRequest.mem_faults_check_iff, hnames.1, hnames.2]
      cases p <;> simp only [ListingParam.Masked] <;> grind
    | error e =>
      simp only [hpage, hsize, reduceCtorEq, false_and, exists_false, Except.ok.injEq, exists_eq']
        at hnpage hnsize hfsize
      simp only [faultsOf, List.flatten_singleton, List.map_singleton, List.mem_singleton,
        param_of_readPositive hsize, hnames.2]
      cases p <;> simp only [ListingParam.Masked] <;> grind
  | error e =>
    cases hsize : readPositive "size" t.size pages.defaultSize with
    | ok size =>
      simp only [hpage, hsize, reduceCtorEq, false_and, exists_false, Except.ok.injEq, exists_eq']
        at hnpage hnsize hfpage
      simp only [faultsOf, List.flatten_singleton, List.map_singleton, List.mem_singleton,
        param_of_readPositive hpage, hnames.1]
      cases p <;> simp only [ListingParam.Masked] <;> grind
    | error e' =>
      simp only [hpage, hsize, reduceCtorEq, false_and, exists_false] at hnpage hnsize hfpage hfsize
      simp only [faultsOf, List.flatten_singleton, List.map_cons, List.map_nil, List.mem_cons,
        List.not_mem_nil, or_false, param_of_readPositive hpage, param_of_readPositive hsize,
        hnames.1, hnames.2]
      cases p <;> simp only [ListingParam.Masked] <;> grind

/-- The faults of a refused listing name what fails and is not masked. -/
theorem mem_params_of_ofTexts {es : List ParamError} (h : Listing.ofTexts pages t = .error es)
    {p : ListingParam} :
    p.name ∈ es.map ParamError.param ↔ p.Fails pages t ∧ ¬ p.Masked pages t := by
  have hfilter : p.name ∈ (faultsOf (Filter.read t.filter :
      Except ParamError (Filter AccountProperty))).map ParamError.param ↔
        p = .filter ∧ ListingParam.Fails pages t .filter := by
    rw [mem_faults_iff param_of_filterRead, ListingParam.fails_iff hpages]
    refine and_congr ?_ .rfl
    cases p <;> decide
  have hsort : p.name ∈ (faultsOf (SortOrder.read t.sort :
      Except ParamError (SortOrder AccountSortKey))).map ParamError.param ↔
        p = .sort ∧ ListingParam.Fails pages t .sort := by
    rw [mem_faults_iff param_of_sortRead, ListingParam.fails_iff hpages]
    refine and_congr ?_ .rfl
    cases p <;> decide
  unfold Listing.ofTexts at h
  split at h
  · cases h
  · cases h
    rw [List.map_append, List.map_append, List.mem_append, List.mem_append, hfilter, hsort,
      mem_faults_readPage_iff hpages]
    cases p <;> simp [ListingParam.Masked]

end

/-! ## Requests -/

namespace Listing

/-- With checked settings, a query without repetitions is refused exactly if a parameter fails. The
refusal has one detail for each failing parameter that is not masked, in the order of the
parameters. So all failing ones are named unless page and size both fail and one of them is a
number. -/
theorem ofQuery_names_failing {s : Settings} (hs : s.check = .ok ()) {query : Option (List Char)}
    (hquery : NoneRepeated query) :
    ((∃ e, ofQuery s.pages query = .error e) ↔
      ∃ p : ListingParam, p.Fails s.pages (textsOf query)) ∧
    ∀ e, ofQuery s.pages query = .error e →
      ∃ (problems : List Problem) (named : List ListingParam), e = .unprocessable problems ∧
        problems.map Problem.location = (named.map fun p => ["query", p.name]) ∧
        named.Sublist [.filter, .sort, .page, .size] ∧
        (∀ p, p ∈ named ↔ p.Fails s.pages (textsOf query) ∧ ¬ p.Masked s.pages (textsOf query)) ∧
        ((∀ p, p ∈ named ↔ p.Fails s.pages (textsOf query)) ↔
          ¬ (ListingParam.Fails s.pages (textsOf query) .page ∧
            ListingParam.Fails s.pages (textsOf query) .size ∧
            (ListingParam.Numeric (textsOf query) .page ∨
              ListingParam.Numeric (textsOf query) .size))) ∧
        ∀ app : App, app.pages = s.pages → App.respond (app.list query) =
          .ofJson 422 (.object [("detail", .array (problems.map Problem.json))]) := by
  have hpages := PageSettings.bounds_of_check (Settings.pages_check hs)
  refine ⟨?_, fun e h => ?_⟩
  · rw [exists_error_iff]
    simp only [ofQuery_eq_ofTexts hquery, mapError_eq_ok_iff, exists_ofTexts_eq_ok_iff hpages,
      ListingParam.fails_iff hpages, not_forall]
  · have hlist : ∀ app : App, app.pages = s.pages → app.list query = .error e := by
      rintro app happ
      rw [App.list, happ, h]
      rfl
    rw [ofQuery_eq_ofTexts hquery] at h
    obtain ⟨es, hes, rfl⟩ := mapError_eq_error_iff.mp h
    obtain ⟨-, named, hsub, hnames, -⟩ := blames_ofTexts hpages hes
    have hnamed (p : ListingParam) : p ∈ named ↔
        p.Fails s.pages (textsOf query) ∧ ¬ p.Masked s.pages (textsOf query) := by
      rw [← mem_params_of_ofTexts hpages hes, hnames,
        List.mem_map_of_injective fun _ _ => ListingParam.name_injective]
    refine ⟨es.map Problem.ofParam, named, rfl, ?_, hsub, hnamed, ?_, fun app happ => ?_⟩
    · have hlocations := congrArg (List.map fun name => ["query", name]) hnames
      rw [List.map_map, List.map_map] at hlocations
      rw [List.map_map]
      exact hlocations
    · rw [← ListingParam.forall_not_masked_iff hpages]
      exact forall_congr' fun p => by rw [hnamed, and_iff_left_iff_imp]
    · rw [hlist app happ]
      exact errorResponse_unprocessable _

theorem ofQuery_names_sort_and_size :
    ∃ (problems : List Problem) (named : List ListingParam),
      ofQuery Settings.standard.pages (some "sort=nope&size=5000".toList) =
        .error (.unprocessable problems) ∧
      problems.map Problem.location = (named.map fun p => ["query", p.name]) ∧
      ∀ p, p ∈ named ↔ p = .sort ∨ p = .size := by
  have hquery : NoneRepeated (some "sort=nope&size=5000".toList) := by
    intro p
    cases p <;> decide +kernel
  have htexts : textsOf (some "sort=nope&size=5000".toList) =
      ⟨none, some "nope", none, some "5000"⟩ := by
    decide +kernel
  have hsort : ∀ s : SortOrder AccountSortKey, SortOrder.read (some "nope") ≠ .ok s := by
    have hnone : (SortOrder.read (some "nope") :
        Except ParamError (SortOrder AccountSortKey)).toOption.isNone = true := by
      decide +kernel
    intro s hs
    rw [hs] at hnone
    cases hnone
  have hsize : readPositive "size" (some "5000") 50 = .ok 5000 := by decide +kernel
  have hfails (p : ListingParam) :
      p.Fails Settings.standard.pages ⟨none, some "nope", none, some "5000"⟩ ↔
        p = .sort ∨ p = .size := by
    rw [ListingParam.fails_iff (by decide)]
    cases p with
    | filter | page =>
      exact iff_of_false (not_not.mpr (ListingParam.valid_of_missing rfl)) (by decide)
    | sort => exact iff_of_true (fun ⟨s, hs⟩ => hsort s hs) (.inl rfl)
    | size =>
      refine iff_of_true ?_ (.inr rfl)
      rw [valid_size_iff (by decide)]
      rintro ⟨n, hn, -, hle⟩
      rw [show n = 5000 from Except.ok.inj (hn.symm.trans hsize)] at hle
      exact absurd hle (by decide)
  obtain ⟨hrefused, hnames⟩ := ofQuery_names_failing (s := .standard) (by decide +kernel) hquery
  rw [htexts] at hrefused
  obtain ⟨e, he⟩ := hrefused.mpr ⟨.sort, (hfails .sort).mpr (.inl rfl)⟩
  obtain ⟨problems, named, rfl, hlocations, -, -, hall, -⟩ := hnames e he
  rw [htexts] at hall
  refine ⟨problems, named, he, hlocations, fun p => ?_⟩
  rw [hall.mpr, hfails]
  rintro ⟨h, -⟩
  rw [hfails] at h
  exact absurd h (by decide)

/-- The page of the query fails by itself, but only the size is blamed. -/
theorem page_zero_is_masked :
    ListingParam.Fails Settings.standard.pages (textsOf (some "page=0&size=x".toList)) .page ∧
    ∃ problems, ofQuery Settings.standard.pages (some "page=0&size=x".toList) =
        .error (.unprocessable problems) ∧
      problems.map Problem.location = [["query", "size"]] := by
  have hquery : NoneRepeated (some "page=0&size=x".toList) := by
    intro p
    cases p <;> decide +kernel
  have htexts : textsOf (some "page=0&size=x".toList) = ⟨none, none, some "0", some "x"⟩ := by
    decide +kernel
  have hpage : readPositive "page" (some "0") 1 = .ok 0 := by decide +kernel
  rw [ofQuery_eq_ofTexts hquery, htexts]
  constructor
  · rw [ListingParam.fails_iff (by decide), valid_page_iff]
    rintro ⟨n, hn, hpos⟩
    rw [hpage] at hn
    cases hn
    exact absurd hpos (by decide)
  · exact ⟨_, rfl, rfl⟩

end Listing

end AccountRegistry
