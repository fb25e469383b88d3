import AccountRegistry.Proofs.Service.Paths
import AccountRegistry.Proofs.Shape.Contents
import AccountRegistry.Proofs.Store.Files
import AccountRegistry.Proofs.Store.Lookup
import AccountRegistry.Proofs.Time.Reading
import AccountRegistry.Service.App

/-! # Serving of loaded accounts

Every answer about accounts shows their moments, so it can be given exactly if these can be written.
The accounts of a file have the moments that their texts stand for, and some of these cannot.
-/

namespace AccountRegistry

open Http

/-! ## Moments of an account -/

/-- Both moments of an account can be written. -/
def Account.Writable (a : Account) : Prop := a.created.Writable ∧ a.modified.Writable

instance Account.decidableWritable (a : Account) : Decidable a.Writable :=
  inferInstanceAs (Decidable (_ ∧ _))

theorem Timestamp.contains_shape_iff {t : Timestamp} :
    shape.Contains t ↔ ∃ s, read s = .ok t := by
  unfold shape Shape.text Shape.Contains Shape.Contains withMessage
  simp only [mapError_eq_ok_iff, ofText_eq_ok_iff]
  constructor
  · rintro ⟨s, -, hs⟩
    exact ⟨s, hs⟩
  · rintro ⟨s, hs⟩
    exact ⟨s, ⟨s, rfl⟩, hs⟩

theorem Account.exists_read_of_contains {a : Account} (h : shape.Contains a) :
    (∃ s, Timestamp.read s = .ok a.created) ∧ ∃ s, Timestamp.read s = .ok a.modified := by
  rw [← Timestamp.contains_shape_iff, ← Timestamp.contains_shape_iff]
  simp only [shape, Shape.mapTo, Shape.Contains, Members.required, Members.default,
    Members.Contains, reduceCtorEq, or_false] at h
  obtain ⟨x, hx, h⟩ := h
  cases h
  exact ⟨hx.2.2.2.2.2.2.2.2.1, hx.2.2.2.2.2.2.2.2.2.1⟩

namespace MemoryStore

/-- Every account of a store that was filled from a file was read from the file. -/
theorem contains_of_load {s : MemoryStore} {path : String} {file : FileText} {n : Nat}
    (h : empty.load path file = .ok (s, n)) {a : Account} (ha : a ∈ s.rows) :
    Account.shape.Contains a := by
  obtain ⟨accounts, ⟨text, -, hlist⟩, rfl, -⟩ := load_eq_ok_iff.mp h
  have hparse := (Shape.parse_list_eq_ok_iff Account.listItem).mpr hlist
  exact Shape.contains_of_parse hparse a (mem_insertAll_empty.mp ha).mem

end MemoryStore

/-! ## Written accounts -/

theorem Timestamp.exists_write_iff {t : Timestamp} : (∃ v, shape.write t = .ok v) ↔ t.Writable := by
  rw [← exists_text_iff]
  unfold shape Shape.write withMessage
  simp only [bind_eq_ok_iff, mapError_eq_ok_iff]
  constructor
  · rintro ⟨v, s, hs, -⟩
    exact ⟨s, hs⟩
  · rintro ⟨s, hs⟩
    exact ⟨.string s, s, hs, rfl⟩

theorem AccountView.exists_writeBankInfo (info : Option (Option BankInfo)) :
    ∃ ms, writeBankInfo info = .ok ms := by
  rcases info with _ | _ | ⟨bank, _ | name, _ | address⟩ <;> exact ⟨_, rfl⟩

namespace Account

/-- A value that shows an account, as an object that begins with its identifier. -/
def ShownAs (a : Account) (v : Json.Value) : Prop :=
  a.view.write = .ok v ∧ ∃ ms, v = .object (("id", .string a.id.text) :: ms)

theorem shownAs_of_write {a : Account} {v : Json.Value} (h : a.view.write = .ok v) :
    a.ShownAs v := by
  refine ⟨h, ?_⟩
  unfold AccountView.write at h
  obtain ⟨created, -, h⟩ := bind_eq_ok_iff.mp h
  obtain ⟨modified, -, h⟩ := bind_eq_ok_iff.mp h
  obtain ⟨info, -, h⟩ := bind_eq_ok_iff.mp h
  cases h
  exact ⟨_, rfl⟩

theorem exists_write_iff {a : Account} : (∃ v, a.view.write = .ok v) ↔ a.Writable := by
  rw [Writable, ← Timestamp.exists_write_iff, ← Timestamp.exists_write_iff]
  unfold AccountView.write
  simp only [bind_eq_ok_iff]
  constructor
  · rintro ⟨_, created, hcreated, modified, hmodified, -⟩
    exact ⟨⟨created, hcreated⟩, modified, hmodified⟩
  · rintro ⟨⟨created, hcreated⟩, modified, hmodified⟩
    obtain ⟨info, hinfo⟩ := AccountView.exists_writeBankInfo a.view.bankInfo
    exact ⟨_, created, hcreated, modified, hmodified, info, hinfo, rfl⟩

end Account

/-- A list with one object for each account, in their order. -/
def ShownInOrder (rows : List Account) (v : Json.Value) : Prop :=
  ∃ objects, v = .array objects ∧ List.Forall₂ Account.ShownAs rows objects

theorem shownInOrder_of_writeAll {rows : List Account} {v : Json.Value}
    (h : AccountView.writeAll (rows.map Account.view) = .ok v) : ShownInOrder rows v := by
  obtain ⟨objects, hobjects, h⟩ := bind_eq_ok_iff.mp h
  cases h
  rw [mapM_eq_ok_iff, List.forall₂_map_left_iff] at hobjects
  exact ⟨objects, rfl, hobjects.imp fun _ _ => Account.shownAs_of_write⟩

theorem exists_writeAll_iff {rows : List Account} :
    (∃ v, AccountView.writeAll (rows.map Account.view) = .ok v) ↔ ∀ a ∈ rows, a.Writable := by
  simp only [← Account.exists_write_iff]
  rw [← List.forall_mem_map (f := Account.view) (P := fun v => ∃ j, v.write = .ok j),
    ← exists_mapM_eq_ok_iff]
  unfold AccountView.writeAll
  simp only [bind_eq_ok_iff]
  constructor
  · rintro ⟨_, objects, hobjects, -⟩
    exact ⟨objects, hobjects⟩
  · rintro ⟨objects, hobjects⟩
    exact ⟨_, objects, hobjects, rfl⟩

/-! ## Responses -/

/-- A response that shows something if that can be written. Otherwise the service fails. -/
def Http.Response.Serves (res : Response) (possible : Prop) (shown : Json.Value → Prop) : Prop :=
  (possible → res.status = 200 ∧ ∃ v, res.body = .json v ∧ shown v) ∧
    (¬ possible → res.status = 500)

namespace App

theorem serves_bodyResponse {body : Except String Json.Value} {possible : Prop}
    {shown : Json.Value → Prop} (hpossible : (∃ v, body = .ok v) ↔ possible)
    (hshown : ∀ v, body = .ok v → shown v) : (bodyResponse body).Serves possible shown := by
  rw [← hpossible]
  cases body with
  | ok v => exact ⟨fun _ => ⟨rfl, v, rfl, hshown v rfl⟩, fun h => absurd ⟨v, rfl⟩ h⟩
  | error e => exact ⟨nofun, fun _ => rfl⟩

/-- Status and body of a response are those of the answer, whatever is put around it. -/
theorem handle_of_route {app : App} {req : Request} {kind : Resource} {captures : Captures}
    (hmethod : req.method = "GET")
    (hroute : route? app.routes req.uri.path = some (kind, captures)) :
    (app.handle req).status = (app.answer kind captures req).status ∧
      (app.handle req).body = (app.answer kind captures req).body := by
  have hcompress (res : Response) :
      (compress req res).status = res.status ∧ (compress req res).body = res.body := by
    unfold compress
    split <;> exact ⟨rfl, rfl⟩
  have hshare (answer : Unit → Response) : (share app.origins req answer).status =
      (answer ()).status ∧ (share app.origins req answer).body = (answer ()).body := by
    unfold share
    rw [if_neg (by rw [hmethod]; decide)]
    exact ⟨rfl, rfl⟩
  unfold handle
  simp only [hroute]
  rw [if_pos (by rw [hmethod]; rfl), if_neg (by rw [hmethod]; decide)]
  exact ⟨(hcompress _).1.trans (hshare _).1, (hcompress _).2.trans (hshare _).2⟩

/-- A reading request that is routed. -/
structure Leads (app : App) (req : Request) (kind : Resource) (captures : Captures) : Prop where
  reading : req.method = "GET"
  routed : route? app.routes req.uri.path = some (kind, captures)

theorem Leads.serves {app : App} {req : Request} {kind : Resource} {captures : Captures}
    (h : app.Leads req kind captures) {possible : Prop} {shown : Json.Value → Prop}
    (hanswer : (app.answer kind captures req).Serves possible shown) :
    (app.handle req).Serves possible shown := by
  obtain ⟨hstatus, hbody⟩ := handle_of_route h.reading h.routed
  unfold Http.Response.Serves
  rw [hstatus, hbody]
  exact hanswer

/-- The text of a capture, or its name if that is no text. -/
def captured : String × List Char → Except String String := fun (name, raw) =>
  ((Text.Percent.decode raw).toOption.map String.ofList).elim (Except.error name) Except.ok

theorem captured_eq_ok {c : String × List Char} {cs : List Char}
    (h : Text.Percent.decode c.2 = .ok cs) : captured c = .ok (String.ofList cs) := by
  obtain ⟨name, raw⟩ := c
  unfold captured
  dsimp only at h ⊢
  rw [h]
  rfl

section

variable {captures : Captures} {texts : List String}
  {lookUp : String → Except ServiceError (Except String Json.Value)}

theorem withCapture_single {text : String} (h : captures.mapM captured = .ok [text]) :
    withCapture captures lookUp = respond (lookUp text) := by
  unfold captured at h
  rw [withCapture, h]

/-- Lookups are made for one capture, and not even tried for more. -/
theorem withCapture_several (h : captures.mapM captured = .ok texts) (hlength : texts.length ≠ 1) :
    (withCapture captures lookUp).status = 500 := by
  unfold captured at h
  rw [withCapture, h]
  split
  · next hname => cases hname
  · next htext =>
    cases htext
    exact absurd rfl hlength
  · rfl

end

end App

/-! ## Answers -/

/-- A page as an object with its rows in their order. -/
def PageSlice.ShownAs (slice : PageSlice) (r : PageRequest) (v : Json.Value) : Prop :=
  ∃ items, ShownInOrder slice.items items ∧
    v = .object [("items", items), ("total", .number (.natural slice.total.toNat)),
      ("page", .number (.natural r.page.toNat)), ("size", .number (.natural r.size.toNat)),
      ("pages", .number (.natural (r.pagesFor slice.total).toNat))]

/-- A page is past the end and the settings refuse such pages. -/
def MemoryStore.LacksPage (s : MemoryStore) (settings : PageSettings) (l : Listing) : Prop :=
  settings.overflow = .reject ∧
    l.page.isPastEnd (s.fetchPage l.query l.page.window).total = true

/-- What a service answers about the accounts of a store. It needs the moments of all accounts that
it shows, and no captures besides that of the identifier looked up. -/
structure MemoryStore.ServedBy (s : MemoryStore) (app : App) : Prop where
  pastEnd {req captures l} (leads : app.Leads req .listing captures)
    (accepted : Listing.ofQuery app.pages req.uri.query = .ok l)
    (lacks : s.LacksPage app.pages l) : (app.handle req).status = 404
  page {req captures l} (leads : app.Leads req .listing captures)
    (accepted : Listing.ofQuery app.pages req.uri.query = .ok l)
    (present : ¬ s.LacksPage app.pages l) :
    (app.handle req).Serves (∀ a ∈ (s.fetchPage l.query l.page.window).items, a.Writable)
      ((s.fetchPage l.query l.page.window).ShownAs l.page)
  byId {req name raw cs} {a : Account} (leads : app.Leads req .byId [(name, raw)])
    (decoded : Text.Percent.decode raw = .ok cs)
    (identifier : Uuid.read (String.ofList cs) = .ok a.id) (shows : s.Shows a) :
    (app.handle req).Serves a.Writable a.ShownAs
  byCompany {req name raw cs} {id : Uuid} (leads : app.Leads req .byCompany [(name, raw)])
    (decoded : Text.Percent.decode raw = .ok cs)
    (identifier : Uuid.read (String.ofList cs) = .ok id) :
    (app.handle req).Serves (∀ a ∈ s.fetch (.byCompany id), a.Writable)
      (ShownInOrder (s.fetch (.byCompany id)))
  company {a : Account} (shows : s.Shows a) : a ∈ s.fetch (.byCompany a.companyId)
  crowded {req kind captures} (leads : app.Leads req kind captures)
    (lookup : kind = .byId ∨ kind = .byCompany) (several : captures.length ≠ 1)
    (decoded : ∀ c ∈ captures, ∃ cs, Text.Percent.decode c.2 = .ok cs) :
    (app.handle req).status = 500

/-- A request to read what a path names. -/
def Http.Request.get (path : String) (query : Option (List Char)) (fields : Headers) : Request :=
  ⟨"GET", ⟨path.toList, query⟩, fields⟩

/-- What a service answers at the paths behind a start. -/
structure MemoryStore.ServedAt (s : MemoryStore) (start : String) (app : App) : Prop where
  pastEnd {query l} (accepted : Listing.ofQuery app.pages query = .ok l)
    (lacks : s.LacksPage app.pages l) (fields : Headers) :
    (app.handle (.get (start ++ "/accounts") query fields)).status = 404
  page {query l} (accepted : Listing.ofQuery app.pages query = .ok l)
    (present : ¬ s.LacksPage app.pages l) (fields : Headers) :
    (app.handle (.get (start ++ "/accounts") query fields)).Serves
      (∀ a ∈ (s.fetchPage l.query l.page.window).items, a.Writable)
      ((s.fetchPage l.query l.page.window).ShownAs l.page)
  byId {a : Account} (shows : s.Shows a) (query : Option (List Char)) (fields : Headers) :
    (app.handle (.get (start ++ "/accounts/" ++ a.id.text) query fields)).Serves
      a.Writable a.ShownAs
  byCompany (id : Uuid) (query : Option (List Char)) (fields : Headers) :
    (app.handle (.get (start ++ "/accounts/company-id/" ++ id.text) query fields)).Serves
      (∀ a ∈ s.fetch (.byCompany id), a.Writable) (ShownInOrder (s.fetch (.byCompany id)))

namespace App

variable {s : MemoryStore} {app : App}

/-- A page that is past the end is refused as missing, and any other is made of its slice. -/
theorem list_eq (hsource : app.source = s.source) {query : Option (List Char)} {l : Listing}
    (h : Listing.ofQuery app.pages query = .ok l) :
    app.list query = fromStore
      ((s.fetchPage l.query l.page.window).toPage l.page app.pages.overflow) >>=
        fun page => .ok (AccountView.writePage (page.map Account.view)) := by
  rw [list, hsource, h]
  rfl

theorem serves_page (slice : PageSlice) (r : PageRequest) :
    (bodyResponse (AccountView.writePage ((Page.ofItems slice.items slice.total r).map
      Account.view))).Serves (∀ a ∈ slice.items, a.Writable) (slice.ShownAs r) := by
  refine serves_bodyResponse ?_ fun v hv => ?_
  · rw [← exists_writeAll_iff]
    unfold AccountView.writePage
    simp only [bind_eq_ok_iff]
    constructor
    · rintro ⟨_, items, hitems, -⟩
      exact ⟨items, hitems⟩
    · rintro ⟨items, hitems⟩
      exact ⟨_, items, hitems, rfl⟩
  · obtain ⟨items, hitems, hv⟩ := bind_eq_ok_iff.mp hv
    cases hv
    exact ⟨items, shownInOrder_of_writeAll hitems, rfl⟩

theorem readId_eq_ok {param text : String} {id : Uuid} (h : Uuid.read text = .ok id) :
    readId param text = .ok id :=
  mapError_eq_ok_iff.mpr h

theorem byId_eq (hsource : app.source = s.source) {text : String} {a : Account}
    (h : Uuid.read text = .ok a.id) (ha : s.Shows a) : app.byId text = .ok a.view.write := by
  have hfound : fromStore (app.source.findById a.id) = .ok (some a) := by
    rw [hsource]
    exact congrArg fromStore (MemoryStore.findById_of_shows ha)
  rw [byId, readId_eq_ok h]
  change fromStore (app.source.findById a.id) >>= _ = _
  rw [hfound]
  rfl

theorem byCompany_eq (hsource : app.source = s.source) {text : String} {id : Uuid}
    (h : Uuid.read text = .ok id) : app.byCompany text =
      .ok (AccountView.writeAll ((s.fetch (.byCompany id)).map Account.view)) := by
  rw [byCompany, readId_eq_ok h, hsource]
  rfl

theorem servedBy_of_source (hsource : app.source = s.source) : s.ServedBy app where
  pastEnd leads accepted lacks := by
    unfold MemoryStore.LacksPage at lacks
    rw [(handle_of_route leads.reading leads.routed).1]
    unfold answer
    dsimp only
    rw [list_eq hsource accepted, PageSlice.toPage, if_pos lacks]
    rfl
  page {req captures l} leads accepted present := by
    unfold MemoryStore.LacksPage at present
    refine leads.serves ?_
    unfold answer
    dsimp only
    rw [list_eq hsource accepted, PageSlice.toPage, if_neg present]
    exact serves_page (s.fetchPage l.query l.page.window) l.page
  byId leads decoded identifier shows := by
    refine leads.serves ?_
    unfold answer
    dsimp only
    rw [withCapture_single (mapM_eq_ok_iff.mpr (.cons (captured_eq_ok decoded) .nil)),
      byId_eq hsource identifier shows]
    exact serves_bodyResponse Account.exists_write_iff fun _ => Account.shownAs_of_write
  byCompany {req name raw cs id} leads decoded identifier := by
    refine leads.serves ?_
    unfold answer
    dsimp only
    rw [withCapture_single (mapM_eq_ok_iff.mpr (.cons (captured_eq_ok decoded) .nil)),
      byCompany_eq hsource identifier]
    exact serves_bodyResponse exists_writeAll_iff fun _ => shownInOrder_of_writeAll
  company shows := MemoryStore.mem_fetch_byCompany.mpr ⟨shows, rfl⟩
  crowded {req kind captures} leads lookup several decoded := by
    rw [(handle_of_route leads.reading leads.routed).1]
    have hcaptured : ∀ c ∈ captures, ∃ text, captured c = .ok text := by
      intro c hc
      obtain ⟨cs, hcs⟩ := decoded c hc
      exact ⟨_, captured_eq_ok hcs⟩
    obtain ⟨texts, htexts⟩ := exists_mapM_eq_ok_iff.mpr hcaptured
    rw [(mapM_eq_ok_iff.mp htexts).length_eq] at several
    rcases lookup with rfl | rfl
    · exact withCapture_several htexts several
    · exact withCapture_several htexts several

theorem servedAt_of_servedBy {start : String} (hserved : s.ServedBy app)
    (hroutes : routesOf (paths start) = .ok app.routes) (hplain : IsPlain start.toList) :
    s.ServedAt start app where
  pastEnd accepted lacks _ := hserved.pastEnd ⟨rfl, route?_listing hroutes hplain⟩ accepted lacks
  page accepted present _ :=
    hserved.page ⟨rfl, route?_listing hroutes hplain⟩ accepted present
  byId {a} shows _ _ :=
    hserved.byId ⟨rfl, route?_byId hroutes hplain a.id⟩ a.id.decode_chars a.id.read_text shows
  byCompany id _ _ :=
    hserved.byCompany ⟨rfl, route?_byCompany hroutes hplain id⟩ id.decode_chars id.read_text

end App

namespace MemoryStore

/-- A store that was filled from a file is served, whatever the settings of the service. Pages and
lookups are answered with an object for each account shown, in order, exactly if the moments of all
of them can be written; a page past the end is missing if the settings say so. Where paths start
without captures, the accounts are at the paths of their identifiers. The moments of accounts are
read from texts of the file, and can be written unless the texts begin with a year before year 0 or
end with an offset of 24 or 25 hours. -/
theorem loaded_accounts_are_served {s : MemoryStore} {path : String} {file : FileText} {n : Nat}
    (hload : empty.load path file = .ok (s, n)) {settings : Settings} {app : App}
    (hbuild : App.build settings s.source = .ok app) :
    app.pages = settings.pages ∧ s.ServedBy app ∧
    (IsPlain settings.server.apiPrefix.toList → s.ServedAt settings.server.apiPrefix app) ∧
    ∀ a ∈ s.rows, ∃ created modified, Timestamp.read created = .ok a.created ∧
      Timestamp.read modified = .ok a.modified ∧
      (a.Writable ↔ Timestamp.IsPlainText created ∧ Timestamp.IsPlainText modified) := by
  obtain ⟨routes, origins, hroutes, -, rfl⟩ := App.build_eq_ok_iff.mp hbuild
  have hserved : s.ServedBy ⟨routes, origins, settings.pages, s.source⟩ :=
    App.servedBy_of_source rfl
  refine ⟨rfl, hserved, App.servedAt_of_servedBy hserved hroutes, fun a ha => ?_⟩
  obtain ⟨⟨created, hcreated⟩, modified, hmodified⟩ :=
    Account.exists_read_of_contains (contains_of_load hload ha)
  exact ⟨created, modified, hcreated, hmodified, and_congr (Timestamp.writable_iff_of_read hcreated)
    (Timestamp.writable_iff_of_read hmodified)⟩

/-- Four accounts in no order. One is archived, and two were modified at the same moment. -/
def shuffled : List Account :=
  [{ (default : Account) with id := .ofNat 3 },
    { (default : Account) with id := .ofNat 2, modified := ⟨1234500000, 0⟩ },
    { (default : Account) with id := .ofNat 4, archived := true },
    { (default : Account) with id := .ofNat 1, modified := ⟨1234500000, 330⟩ }]

/-- A request for the first two accounts. -/
def firstTwo : Request := .get "/v1/accounts" (some "size=2".toList) []

theorem first_two_accounts_are_served : ∃ file s app v,
    (Shape.list Account.shape).write shuffled = .ok file ∧
    empty.load "accounts.json" (.ok file.print) = .ok (s, 4) ∧
    App.build .standard s.source = .ok app ∧
    (app.handle firstTwo).status = 200 ∧ (app.handle firstTwo).body = .json v ∧
    PageSlice.ShownAs ⟨3, [shuffled[3], shuffled[1]]⟩ ⟨1, 2, by decide, by decide⟩ v := by
  have written : ((Shape.list Account.shape).write shuffled).toOption.any (fun _ => true) =
      true := by
    decide +kernel
  obtain ⟨file, hfile, -⟩ := exists_ok_of_any written
  have hload := load_print hfile empty "accounts.json"
  obtain ⟨l, hl, hquery, hpage⟩ : ∃ l,
      Listing.ofQuery Settings.standard.pages (some "size=2".toList) = .ok l ∧
      l.query = sampleListing.query ∧ l.page = ⟨1, 2, by decide, by decide⟩ := ⟨_, rfl, rfl, rfl⟩
  obtain ⟨app, hbuild, hpages⟩ : ∃ app,
      App.build .standard (empty.insertAll shuffled).source = .ok app ∧
      app.pages = Settings.standard.pages := ⟨_, rfl, rfl⟩
  have hselect : [shuffled[3], shuffled[1], shuffled[0]] =
      select (empty.insertAll shuffled).rows sampleListing.query := by
    refine (eq_select_iff (empty.insertAll shuffled).distinct _).mpr ⟨by decide, ?_⟩
    show List.Pairwise (fun a b => rowOrder sampleListing.query.order a b = .lt) _
    decide
  have hslice : (empty.insertAll shuffled).fetchPage l.query l.page.window =
      ⟨3, [shuffled[3], shuffled[1]]⟩ := by
    rw [hquery, hpage, fetchPage, ← hselect]
    rfl
  have hpresent : ¬ (empty.insertAll shuffled).LacksPage app.pages l := by
    rw [hpages]
    exact fun h => absurd h.1 (by decide)
  have hpath : Settings.standard.server.apiPrefix ++ "/accounts" = "/v1/accounts" := by decide
  obtain ⟨-, -, hserved, -⟩ := loaded_accounts_are_served hload hbuild
  have hserves := ((hserved (by decide)).page (hpages ▸ hl) hpresent []).1
  rw [hpath, hslice, hpage] at hserves
  obtain ⟨hstatus, v, hbody, hshown⟩ := hserves (by decide)
  exact ⟨file, _, app, v, hfile, hload, hbuild, hstatus, hbody, hshown⟩

/-- A file with one account, given by its members in their order. -/
def fileCreated (created : String) : FileText :=
  .ok ("[[\"00000001000140018001000000000001\", \"account-type-2\", \"840\", \"DE00000001\", " ++
    "\"000003e903e943e983e90000000003e9\", \"Globex\", null, false, \"" ++ created ++
    "\", \"2024-02-29 23:30:00+02:00\"]]")

/-- A request for the first page of all accounts. -/
def firstPage : Request := .get "/v1/accounts" none []

/-- A file is loaded whose only account lets every listing fail. -/
theorem one_loaded_account_fails : ∃ s n app,
    empty.load "accounts.json" (fileCreated "-0001-01-01") = .ok (s, n) ∧
    App.build .standard s.source = .ok app ∧ (app.handle firstPage).status = 500 := by
  have loaded : (empty.load "accounts.json" (fileCreated "-0001-01-01")).toOption.any
      (fun p => p.1.rows.length == 1 &&
        decide (∀ a ∈ p.1.rows, a.archived = false ∧ ¬ a.Writable)) = true := by
    decide +kernel
  obtain ⟨⟨s, n⟩, hload, hrows⟩ := exists_ok_of_any loaded
  rw [Bool.and_eq_true, beq_iff_eq, List.length_eq_one_iff, decide_eq_true_iff] at hrows
  obtain ⟨⟨a, ha⟩, hrows⟩ := hrows
  obtain ⟨harchived, hunwritable⟩ := hrows a (ha ▸ List.mem_singleton_self a)
  obtain ⟨app, hbuild, hroute, hpages, hsource⟩ : ∃ app, App.build .standard s.source = .ok app ∧
      App.route? app.routes firstPage.uri.path = some (.listing, []) ∧
      app.pages = Settings.standard.pages ∧ app.source = s.source := ⟨_, rfl, rfl, rfl, rfl⟩
  have hitems : (s.fetchPage sampleListing.query sampleListing.page.window).items = [a] := by
    have hmatches : sampleListing.query.predicate.matches a = true :=
      Condition.matches_iff.mpr ((truth_archived_eq a false).mpr harchived)
    have hperm := select_perm [a] sampleListing.query
    rw [List.filter_cons_of_pos hmatches, List.filter_nil, List.perm_singleton] at hperm
    rw [fetchPage, ha]
    dsimp only
    rw [hperm]
    rfl
  refine ⟨s, n, app, hload, hbuild,
    ((App.servedBy_of_source hsource).page (l := sampleListing) ⟨rfl, hroute⟩ ?_ ?_).2 ?_⟩
  · rw [hpages]
    rfl
  · rw [hpages]
    exact fun h => absurd h.1 (by decide)
  · rw [hitems, List.forall_mem_singleton]
    exact hunwritable

end MemoryStore

end AccountRegistry
