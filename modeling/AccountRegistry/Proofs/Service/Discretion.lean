import AccountRegistry.Proofs.Filter.Decided
import AccountRegistry.Proofs.Store.Redaction
import AccountRegistry.Service.App

/-! # Discretion of the service

No query of the service looks at account numbers but the one that is given a number. So nothing in
the other answers, be it a row, a total or an error, depends on hidden fields.
-/

namespace AccountRegistry

/-! ## Queries of the service -/

namespace Query

theorem avoidsNumber_active : active.AvoidsNumber :=
  ⟨by decide, by decide⟩

theorem AvoidsNumber.restrict {q : Query} (hq : q.AvoidsNumber) {c : Condition}
    (hc : ∀ x ∈ c.atoms, x.field ≠ .number) : (q.restrict c).AvoidsNumber := by
  refine ⟨?_, hq.order⟩
  rw [Query.restrict, Condition.atomsAll_append, Condition.atomsAll, Condition.atomsAll,
    List.append_nil]
  exact List.forall_mem_append.mpr ⟨hq.conditions, hc⟩

theorem avoidsNumber_byId (id : Uuid) : (byId id).AvoidsNumber := by
  have hid : ∀ x ∈ (Condition.compare .id .eq (.uuid id)).atoms, x.field ≠ .number :=
    List.forall_mem_singleton.mpr (show Field.id ≠ .number by decide)
  exact ⟨(avoidsNumber_active.restrict hid).conditions, List.forall_mem_nil _⟩

theorem avoidsNumber_byCompany (id : Uuid) : (byCompany id).AvoidsNumber := by
  have hid : ∀ x ∈ (Condition.compare .companyId .eq (.text id.text)).atoms, x.field ≠ .number :=
    List.forall_mem_singleton.mpr (show Field.companyId ≠ .number by decide)
  exact ⟨(avoidsNumber_active.restrict hid).conditions,
    List.forall_mem_singleton.mpr (show Field.modified ≠ .number by decide)⟩

theorem AvoidsNumber.apply {q : Query} (hq : q.AvoidsNumber) (f : Filter AccountProperty) :
    (f.apply q).AvoidsNumber := by
  rw [Filter.apply]
  split
  · exact hq
  · refine hq.restrict (Filter.forall_mem_atoms_compile.mpr fun c _ x hx => ?_)
    rw [(Criterion.of_mem_atoms_compile hx).1]
    cases c.property <;> decide

end Query

theorem SortOrder.field_ne_number (s : SortOrder AccountSortKey) :
    ∀ c ∈ s.compile, c.field ≠ .number := by
  unfold SortOrder.compile
  rw [List.forall_mem_flatMap]
  rintro ⟨p, d⟩ -
  refine List.forall_mem_singleton.mpr ?_
  change p.field ≠ .number
  cases p <;> decide

theorem Listing.avoidsNumber_query (l : Listing) : l.query.AvoidsNumber := by
  rw [l.query_eq]
  exact ⟨(Query.avoidsNumber_active.apply l.filter).conditions, l.sort.field_ne_number⟩

/-! ## Answers -/

namespace App

open Http

variable {s t : MemoryStore}

/-- What follows a read may depend on a part of its result only. -/
theorem fromStore_bind_congr {α β γ : Type} {r r' : Except StoreError α} {f : α → β}
    {g : α → Except ServiceError γ} (h : r.map f = r'.map f)
    (hg : ∀ x y, f x = f y → g x = g y) : (fromStore r >>= g) = (fromStore r' >>= g) := by
  cases r with
  | error e =>
    cases r' with
    | error e' => cases h; rfl
    | ok y => cases h
  | ok x =>
    cases r' with
    | error e' => cases h
    | ok y => exact hg x y (Except.ok.inj h)

theorem list_congr (h : s.Alike t) (app : App) (query : Option (List Char)) :
    { app with source := s.source }.list query = { app with source := t.source }.list query := by
  refine bind_congr fun l => ?_
  refine fromStore_bind_congr (h.view_page l.avoidsNumber_query l.page app.pages.overflow) ?_
  intro x y hxy
  rw [hxy]

theorem byId_congr (h : s.Alike t) (app : App) (text : String) :
    { app with source := s.source }.byId text = { app with source := t.source }.byId text := by
  refine bind_congr fun id => ?_
  have hfind : (s.source.findById id).map (Option.map Account.view) =
      (t.source.findById id).map (Option.map Account.view) := by
    have hhead := congrArg List.head? (h.view_fetch (Query.avoidsNumber_byId id))
    rw [List.head?_map, List.head?_map] at hhead
    exact congrArg Except.ok hhead
  refine fromStore_bind_congr hfind ?_
  rintro (_ | a) (_ | b) hxy
  · rfl
  · cases hxy
  · cases hxy
  · dsimp only
    rw [Option.some.inj hxy]

theorem byCompany_congr (h : s.Alike t) (app : App) (text : String) :
    { app with source := s.source }.byCompany text =
      { app with source := t.source }.byCompany text := by
  refine bind_congr fun id => ?_
  have hrows : (s.source.listByCompany id).map (List.map Account.view) =
      (t.source.listByCompany id).map (List.map Account.view) :=
    congrArg Except.ok (h.view_fetch (Query.avoidsNumber_byCompany id))
  refine fromStore_bind_congr hrows ?_
  intro x y hxy
  rw [hxy]

theorem answer_congr (h : s.Alike t) (app : App) {kind : Resource} (hkind : kind ≠ .byNumber)
    (captures : Captures) (req : Request) :
    { app with source := s.source }.answer kind captures req =
      { app with source := t.source }.answer kind captures req := by
  cases kind with
  | health | metrics => rfl
  | listing => exact congrArg respond (list_congr h app req.uri.query)
  | byNumber => exact absurd rfl hkind
  | byCompany => exact congrArg (withCapture captures) (funext (byCompany_congr h app))
  | byId => exact congrArg (withCapture captures) (funext (byId_congr h app))

theorem handle_congr (h : s.Alike t) (app : App) {req : Request}
    (hroute : (route? app.routes req.uri.path).map Prod.fst ≠ some .byNumber) :
    { app with source := s.source }.handle req = { app with source := t.source }.handle req := by
  unfold handle
  cases hfound : route? app.routes req.uri.path with
  | none => simp only
  | some found =>
    obtain ⟨kind, captures⟩ := found
    rw [hfound] at hroute
    have hkind : kind ≠ .byNumber := fun he => hroute (congrArg some he)
    simp only [answer_congr h app hkind]

theorem build_eq (settings : Settings) (source source' : AccountSource) :
    build settings source' =
      (build settings source).map fun app => { app with source := source' } := by
  unfold build
  cases routesOf (paths settings.server.apiPrefix) with
  | error e => rfl
  | ok routes =>
    cases originsOf settings.server.corsOrigins with
    | error e => rfl
    | ok origins => rfl

/-- Two services on stores that differ in hidden fields only cannot be told apart, except by looking
up an account by its number. -/
theorem handle_eq_of_alike (settings : Settings) (h : s.Alike t) :
    (∀ e, build settings s.source = .error e ↔ build settings t.source = .error e) ∧
    ∀ app, build settings s.source = .ok app →
      ∃ app', build settings t.source = .ok app' ∧
        ∀ req : Request, (route? app.routes req.uri.path).map Prod.fst ≠ some .byNumber →
          app.handle req = app'.handle req := by
  rw [build_eq settings s.source t.source]
  cases hbuild : build settings s.source with
  | error e => exact ⟨fun _ => .rfl, nofun⟩
  | ok app =>
    have hsource := build_eq settings s.source s.source
    rw [hbuild] at hsource
    have happ : app = { app with source := s.source } := Except.ok.inj hsource
    refine ⟨fun _ => ⟨nofun, nofun⟩, ?_⟩
    rintro _ ⟨⟩
    refine ⟨_, rfl, fun req hreq => ?_⟩
    exact (congrArg (fun app : App => app.handle req) happ).trans (handle_congr h app hreq)

theorem handle_listing_eq_of_number_changed :
    let a : Account := { (default : Account) with kind := .type2 }
    let b : Account :=
      { a with number := ⟨"11111111", by decide⟩, bankInfo := some ⟨"Bank", none, none⟩ }
    let req : Request := ⟨"GET", ⟨"/v1/accounts".toList, some "page=1".toList⟩, []⟩
    ∃ app app', build .standard (MemoryStore.empty.insert a).source = .ok app ∧
      build .standard (MemoryStore.empty.insert b).source = .ok app' ∧
      app.handle req = app'.handle req := by
  intro a b req
  have hab : a.Alike b := ⟨rfl, rfl, rfl, rfl, rfl, rfl, rfl, rfl, nofun⟩
  have halike : (MemoryStore.empty.insert a).Alike (MemoryStore.empty.insert b) :=
    ⟨List.forall_mem_singleton.mpr ⟨b, .head _, hab⟩,
      List.forall_mem_singleton.mpr ⟨a, .head _, hab⟩⟩
  obtain ⟨app, hbuild, hroute⟩ :
      ∃ app, build .standard (MemoryStore.empty.insert a).source = .ok app ∧
        (route? app.routes req.uri.path).map Prod.fst = some .listing := ⟨_, rfl, rfl⟩
  obtain ⟨app', hbuild', hhandle⟩ := (handle_eq_of_alike .standard halike).2 app hbuild
  refine ⟨app, app', hbuild, hbuild', hhandle req ?_⟩
  rw [hroute]
  decide

end App

end AccountRegistry
