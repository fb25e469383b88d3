import AccountRegistry.Proofs.Listing.Acceptance
import AccountRegistry.Proofs.Net.Address
import AccountRegistry.Settings.Check
import AccountRegistry.Store.Memory

/-! # Setting up from checked settings

A check of the settings leaves open whether their start of paths can be routed and whether all
origins are named one by one. If so, a service can be set up that allows each of the origins.
-/

namespace AccountRegistry

/-! ## Patterns -/

namespace Http

/-- Every part of a path between slashes can be a segment of a route. -/
def IsRoutable (path : List Char) : Prop :=
  ∀ part ∈ Text.splitAll '/' path, ∃ segment, segment? part = some segment

instance (path : List Char) : Decidable (IsRoutable path) :=
  decidable_of_iff (∀ part ∈ Text.splitAll '/' path, (segment? part).isSome = true) <| by
    simp only [IsRoutable, Option.isSome_iff_exists]

theorem isRoutable_append_iff {start rest : List Char} :
    IsRoutable (start ++ '/' :: rest) ↔ IsRoutable start ∧ IsRoutable rest := by
  rw [IsRoutable, Text.splitAll_append, List.forall_mem_append]
  rfl

/-- A path is the pattern of a route if it begins with a slash and its parts are segments. -/
theorem exists_read_iff {path : List Char} :
    (∃ p, Pattern.read? path = some p) ↔ path.head? = some '/' ∧ IsRoutable path := by
  unfold Pattern.read?
  split
  · next rest =>
    rw [exists_mapM_eq_some_iff]
    exact (and_iff_right rfl).symm
  · next hslash =>
    refine iff_of_false nofun fun h => ?_
    cases path with
    | nil => cases h.1
    | cons c rest => exact hslash rest (congrArg (· :: rest) (Option.some.inj h.1))

/-! ## Fields of responses -/

theorem mem_headers_compress {req : Request} {res : Response} {field : String × String}
    (h : field ∈ res.headers) : field ∈ (compress req res).headers := by
  unfold compress
  split
  · exact List.mem_append_left _ h
  · exact h

theorem mem_headers_share {origins : Origins} {req : Request} {o : String}
    (h : allowedOrigin? origins req = some o) (answer : Unit → Response) :
    ("access-control-allow-origin", o) ∈ (share origins req answer).headers := by
  have hfields : originFields origins req = [("access-control-allow-origin", o)] := by
    unfold originFields
    rw [h]
  unfold share Response.adding
  rw [hfields]
  split <;> simp

end Http

/-! ## Checked settings -/

theorem head?_append_of_isPathStart {start : String} (h : isPathStart start = true)
    (rest : List Char) : (start.toList ++ '/' :: rest).head? = some '/' := by
  unfold isPathStart at h
  rw [Bool.or_eq_true, String.isEmpty_iff, Bool.and_eq_true, beq_iff_eq] at h
  rcases h with rfl | ⟨hhead, -⟩
  · rfl
  · rw [List.head?_append, hhead]
    rfl

namespace Settings

variable {s : Settings}

theorem server_check (h : s.check = .ok ()) : s.server.check = .ok () := by
  obtain ⟨_, hserver, -⟩ := bind_eq_ok_iff.mp h
  exact hserver

end Settings

namespace ServerSettings

variable {s : ServerSettings} (h : s.check = .ok ())

include h

theorem isPathStart_of_check : isPathStart s.apiPrefix = true := by
  obtain ⟨_, -, h⟩ := bind_eq_ok_iff.mp h
  obtain ⟨_, -, h⟩ := bind_eq_ok_iff.mp h
  obtain ⟨_, hstart, -⟩ := bind_eq_ok_iff.mp h
  exact demand_eq_ok_iff.mp hstart

theorem isValue_of_check {o : String} (ho : o ∈ s.corsOrigins) : Http.isValue o = true := by
  obtain ⟨_, -, h⟩ := bind_eq_ok_iff.mp h
  obtain ⟨_, -, h⟩ := bind_eq_ok_iff.mp h
  obtain ⟨_, -, h⟩ := bind_eq_ok_iff.mp h
  split at h
  · cases h
  · next hnone => simpa using List.find?_eq_none.mp hnone o ho

end ServerSettings

/-! ## Setting up -/

namespace App

open Http

theorem routesOf_eq_ok_iff {paths : List (String × Resource)} {routes : Routes} :
    routesOf paths = .ok routes ↔
      List.Forall₂ (fun p r => Pattern.read? p.1.toList = some r.1 ∧ p.2 = r.2) paths routes := by
  induction paths generalizing routes with
  | nil =>
    rw [routesOf, List.forall₂_nil_left_iff]
    exact ⟨fun h => (Except.ok.inj h).symm, fun h => congrArg _ h.symm⟩
  | cons p paths ih =>
    obtain ⟨path, kind⟩ := p
    rw [routesOf]
    constructor
    · intro h
      split at h
      · next pattern hread =>
        obtain ⟨rest, hrest, h⟩ := bind_eq_ok_iff.mp h
        cases h
        exact .cons ⟨hread, rfl⟩ (ih.mp hrest)
      · cases h
    · rintro (_ | ⟨⟨hread, rfl⟩, hrest⟩)
      rw [hread]
      exact bind_eq_ok_iff.mpr ⟨_, ih.mpr hrest, rfl⟩

theorem exists_routesOf_iff {paths : List (String × Resource)} :
    (∃ routes, routesOf paths = .ok routes) ↔
      ∀ p ∈ paths, ∃ pattern, Pattern.read? p.1.toList = some pattern := by
  simp only [routesOf_eq_ok_iff, exists_forall₂_iff]
  refine forall₂_congr fun p _ => ⟨?_, ?_⟩
  · rintro ⟨r, hread, -⟩
    exact ⟨r.1, hread⟩
  · rintro ⟨pattern, hread⟩
    exact ⟨(pattern, p.2), hread, rfl⟩

/-- The paths of the service can be routed if their start can; what stands behind it always can. -/
theorem exists_routes_iff {start : String} (hstart : isPathStart start = true) :
    (∃ routes, routesOf (paths start) = .ok routes) ↔ IsRoutable start.toList := by
  have hbehind {suffix : String} {rest : List Char} (hsuffix : suffix.toList = '/' :: rest)
      (hrest : IsRoutable rest) :
      (∃ pattern, Pattern.read? (start ++ suffix).toList = some pattern) ↔
        IsRoutable start.toList := by
    rw [exists_read_iff, String.toList_append, hsuffix, isRoutable_append_iff]
    exact ⟨fun h => h.2.1, fun h => ⟨head?_append_of_isPathStart hstart rest, h, hrest⟩⟩
  rw [exists_routesOf_iff]
  unfold paths
  dsimp only
  simp only [String.append_assoc, List.forall_mem_cons, List.not_mem_nil, false_imp_iff,
    implies_true, and_true]
  constructor
  · rintro ⟨-, -, hlisting, -⟩
    exact (hbehind rfl (by decide)).mp hlisting
  · intro h
    exact ⟨exists_read_iff.mpr (by decide), exists_read_iff.mpr (by decide),
      (hbehind rfl (by decide)).mpr h, (hbehind rfl (by decide)).mpr h,
      (hbehind rfl (by decide)).mpr h, (hbehind rfl (by decide)).mpr h,
      (hbehind rfl (by decide)).mpr h⟩

/-- Origins that are values are allowed as they are listed, unless one is the sign for all. -/
theorem originsOf_eq_ok_iff {listed : List String} (hvalues : ∀ o ∈ listed, isValue o = true)
    {origins : Origins} : originsOf listed = .ok origins ↔
      "*" ∉ listed ∧ origins = if listed = [] then none else some listed := by
  unfold originsOf
  dsimp only
  rw [List.filter_eq_self.mpr hvalues]
  cases listed with
  | nil =>
    rw [List.isEmpty_nil, if_pos rfl, if_pos rfl, and_iff_right List.not_mem_nil, Except.ok.injEq]
    exact eq_comm
  | cons o listed =>
    rw [if_neg (by simp), if_neg (List.cons_ne_nil o listed)]
    by_cases hwildcard : "*" ∈ o :: listed
    · rw [if_pos (List.contains_iff_mem.mpr hwildcard)]
      exact iff_of_false nofun fun h => h.1 hwildcard
    · rw [if_neg (mt List.contains_iff_mem.mp hwildcard), and_iff_right hwildcard,
        Except.ok.injEq]
      exact eq_comm

theorem build_eq_ok_iff {s : Settings} {source : AccountSource} {app : App} :
    build s source = .ok app ↔ ∃ routes origins, routesOf (paths s.server.apiPrefix) = .ok routes ∧
      originsOf s.server.corsOrigins = .ok origins ∧ app = ⟨routes, origins, s.pages, source⟩ := by
  simp only [build, bind_eq_ok_iff]
  constructor
  · rintro ⟨routes, hroutes, origins, horigins, h⟩
    exact ⟨routes, origins, hroutes, horigins, (Except.ok.inj h).symm⟩
  · rintro ⟨routes, origins, hroutes, horigins, rfl⟩
    exact ⟨routes, hroutes, origins, horigins, rfl⟩

/-- A service can be set up from checked settings exactly if the start of its paths can be routed
and no listed origin is the sign for all. -/
theorem exists_build_iff {s : Settings} (hcheck : s.check = .ok ()) (source : AccountSource) :
    (∃ app, build s source = .ok app) ↔
      IsRoutable s.server.apiPrefix.toList ∧ "*" ∉ s.server.corsOrigins := by
  have hserver := Settings.server_check hcheck
  have hvalues := fun o => ServerSettings.isValue_of_check hserver (o := o)
  rw [← exists_routes_iff (ServerSettings.isPathStart_of_check hserver)]
  simp only [build_eq_ok_iff]
  constructor
  · rintro ⟨_, routes, origins, hroutes, horigins, -⟩
    exact ⟨⟨routes, hroutes⟩, ((originsOf_eq_ok_iff hvalues).mp horigins).1⟩
  · rintro ⟨⟨routes, hroutes⟩, hwildcard⟩
    exact ⟨_, routes, _, hroutes, (originsOf_eq_ok_iff hvalues).mpr ⟨hwildcard, rfl⟩, rfl⟩

/-! ## Origins -/

/-- Whatever the answer, its response says which origin is allowed. -/
theorem allows_of_allowedOrigin? {app : App} {req : Request} {o : String}
    (h : allowedOrigin? app.origins req = some o) :
    ("access-control-allow-origin", o) ∈ (app.handle req).headers := by
  have hdress (answer : Unit → Response) : ("access-control-allow-origin", o) ∈
      ((compress req (share app.origins req answer)).adding (requestIdField req)).headers :=
    List.mem_append_left _ (mem_headers_compress (mem_headers_share h answer))
  unfold handle
  dsimp only
  split
  · exact hdress _
  · split
    · split
      · exact hdress _
      · exact hdress _
    · exact List.mem_append_left _ (hdress _)

/-- A service has what the settings say: each origin that they list is allowed by all responses to
its requests, and every origin if they list none. -/
structure SetUpBy (app : App) (s : Settings) : Prop where
  pages : app.pages = s.pages
  listed {o : String} (ho : o ∈ s.server.corsOrigins) {req : Request}
    (hreq : req.headers.first? "origin" = some o) :
    ("access-control-allow-origin", o) ∈ (app.handle req).headers
  unlisted (hnone : s.server.corsOrigins = []) (req : Request) :
    ("access-control-allow-origin", "*") ∈ (app.handle req).headers

theorem setUpBy_of_build {s : Settings} (hcheck : s.check = .ok ()) {source : AccountSource}
    {app : App} (happ : build s source = .ok app) : app.SetUpBy s := by
  obtain ⟨routes, origins, -, horigins, rfl⟩ := build_eq_ok_iff.mp happ
  have hvalues := fun o => ServerSettings.isValue_of_check (Settings.server_check hcheck) (o := o)
  obtain ⟨-, rfl⟩ := (originsOf_eq_ok_iff hvalues).mp horigins
  refine ⟨rfl, ?_, ?_⟩
  · intro o ho req hreq
    refine allows_of_allowedOrigin? ?_
    dsimp only
    rw [if_neg (List.ne_nil_of_mem ho), allowedOrigin?, hreq, Option.bind_some,
      if_pos (List.contains_iff_mem.mpr ho)]
  · intro hnone req
    refine allows_of_allowedOrigin? ?_
    dsimp only
    rw [if_pos hnone]
    rfl

end App

namespace Settings

open Http

/-- Checked settings set up a service if the start of its paths can be routed and no listed origin
is the sign for all. It listens at the address that the host is the text of, and on all interfaces
if the host is no address. -/
theorem service_of_check {s : Settings} (hcheck : s.check = .ok ())
    (hroutable : IsRoutable s.server.apiPrefix.toList) (hwildcard : "*" ∉ s.server.corsOrigins)
    (source : AccountSource) :
    (∃ app, App.build s source = .ok app ∧ app.source = source ∧ app.SetUpBy s) ∧
      s.endpoint.port = s.server.port ∧
      (∀ a : IpAddress, s.server.host = a.text → s.endpoint.address = a) ∧
      (∀ a, IpAddress.read? s.server.host = some a → s.endpoint.address = a) ∧
      (IpAddress.read? s.server.host = none → s.endpoint.address = .unspecified) := by
  obtain ⟨app, happ⟩ := (App.exists_build_iff hcheck source).mpr ⟨hroutable, hwildcard⟩
  have hread (a) (h : IpAddress.read? s.server.host = some a) : s.endpoint.address = a := by
    rw [endpoint, h]
    rfl
  refine ⟨⟨app, happ, ?_, App.setUpBy_of_build hcheck happ⟩, rfl, ?_, hread, ?_⟩
  · obtain ⟨_, _, -, -, rfl⟩ := App.build_eq_ok_iff.mp happ
    rfl
  · intro a ha
    exact hread a (ha ▸ IpAddress.read?_text a)
  · intro h
    rw [endpoint, h]
    rfl

/-- Settings that differ from the standard ones in those of the server. -/
def serving (host apiPrefix : String) (corsOrigins : List String) : Settings :=
  { standard with server := ⟨host, 8080, apiPrefix, 1024, corsOrigins⟩ }

/-- Paths that start with a capture, for the pages of one origin, on the loopback interface. -/
theorem service_of_serving : ∃ app,
    App.build (serving "::1" "/\x7btenant\x7d" ["https://a.example"])
      MemoryStore.empty.source = .ok app ∧
      (serving "::1" "/\x7btenant\x7d" ["https://a.example"]).endpoint.address = .v6 1 := by
  obtain ⟨⟨app, happ, -⟩, -, haddress, -⟩ :=
    service_of_check (s := serving "::1" "/\x7btenant\x7d" ["https://a.example"])
      (by decide +kernel) (by decide) (by decide) MemoryStore.empty.source
  exact ⟨app, happ, haddress (.v6 1) (by decide)⟩

/-- Settings pass the check although paths behind their start cannot be routed, or they list the
sign for all origins, or their host is not where they let the service listen. -/
theorem check_serving :
    ((serving "0.0.0.0" "/:tenant" []).check = .ok () ∧
      App.build (serving "0.0.0.0" "/:tenant" []) MemoryStore.empty.source =
        .error (.route "/:tenant/accounts")) ∧
    ((serving "0.0.0.0" "/v1" ["*"]).check = .ok () ∧
      App.build (serving "0.0.0.0" "/v1" ["*"]) MemoryStore.empty.source =
        .error .wildcardOrigin) ∧
    (serving "localhost" "/v1" []).check = .ok () ∧
      (serving "localhost" "/v1" []).endpoint.text = "0.0.0.0:8080" :=
  ⟨⟨by decide +kernel, rfl⟩, ⟨by decide +kernel, rfl⟩, by decide +kernel, by decide +kernel⟩

end Settings

end AccountRegistry
