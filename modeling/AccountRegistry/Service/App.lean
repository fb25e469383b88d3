import AccountRegistry.Http.Cors
import AccountRegistry.Http.Encoding
import AccountRegistry.Http.Route
import AccountRegistry.Service.Listing
import AccountRegistry.Service.View
import AccountRegistry.Store.Source
import AccountRegistry.Text.Percent

/-! # The service

Requests are routed by their paths and answered from a source of accounts. Only reading is offered.
-/

namespace AccountRegistry

open Http

/-- What a path leads to. -/
inductive Resource
  | health
  | metrics
  | listing
  | byNumber
  | byCompany
  | byId
  deriving DecidableEq, Repr

abbrev Routes := List (Pattern × Resource)

structure App where
  routes : Routes
  origins : Origins
  pages : PageSettings
  source : AccountSource

/-- Why a service cannot be set up. -/
inductive SetupFault
  /-- A path that is no pattern. -/
  | route (path : String)
  /-- A list of origins must not hold the sign for all of them. -/
  | wildcardOrigin
  deriving DecidableEq, Repr

namespace App

/-! ## Setting up -/

/-- The paths of the service, those of accounts behind a start. -/
def paths (start : String) : List (String × Resource) :=
  let base := start ++ "/accounts"
  [("/health", .health), ("/metrics", .metrics), (base, .listing), (base ++ "/", .listing),
   (base ++ "/account-number/\x7bnumber\x7d", .byNumber),
   (base ++ "/company-id/\x7bcompany_id\x7d", .byCompany), (base ++ "/\x7baccount_id\x7d", .byId)]

def routesOf : List (String × Resource) → Except SetupFault Routes
  | [] => .ok []
  | (path, kind) :: rest =>
    match Pattern.read? path.toList with
    | some p => do return (p, kind) :: (← routesOf rest)
    | none => .error (.route path)

/-- The origins that settings allow. -/
def originsOf (listed : List String) : Except SetupFault Origins :=
  if listed.isEmpty then .ok none
  else
    let usable := listed.filter isValue
    if usable.contains "*" then .error .wildcardOrigin else .ok (some usable)

def build (s : Settings) (source : AccountSource) : Except SetupFault App := do
  let routes ← routesOf (paths s.server.apiPrefix)
  let origins ← originsOf s.server.corsOrigins
  return ⟨routes, origins, s.pages, source⟩

/-! ## Answers -/

/-- The response of an error; its body can always be written. -/
def errorResponse (e : ServiceError) : Response :=
  match ErrorBody.shape.write e.body with
  | .ok v => .ofJson e.status v
  | .error reason => .ofText 500 reason

/-- The response with a body, if it can be written. -/
def bodyResponse (body : Except String Json.Value) : Response :=
  match body with
  | .ok v => .ofJson 200 v
  | .error reason => .ofText 500 reason

def respond (r : Except ServiceError (Except String Json.Value)) : Response :=
  match r with
  | .ok body => bodyResponse body
  | .error e => errorResponse e

def fromStore {α : Type} (r : Except StoreError α) : Except ServiceError α := r.mapError .ofStore

/-- The rows of a listing. -/
def list (app : App) (query : Option (List Char)) :
    Except ServiceError (Except String Json.Value) := do
  let l ← Listing.ofQuery app.pages query
  let page ← fromStore (app.source.page l.query l.page app.pages.overflow)
  return AccountView.writePage (page.map Account.view)

def byNumber (app : App) (text : String) : Except ServiceError (Except String Json.Value) := do
  let number ← (AccountNumber.read text).mapError fun e =>
    .ofFault "path" "number" e.message "value_error.invalid_account_number"
  match ← fromStore (app.source.findByNumber number.text) with
  | some a => return a.view.write
  | none => throw (.notFound s!"Account with number '{number.text}' does not exist")

/-- An identifier in a path. -/
def readId (param text : String) : Except ServiceError Uuid :=
  (Uuid.read text).mapError fun e =>
    .ofFault "path" param s!"invalid uuid: {e.message}" "value_error.uuid"

def byCompany (app : App) (text : String) : Except ServiceError (Except String Json.Value) := do
  let id ← readId "company_id" text
  let rows ← fromStore (app.source.listByCompany id)
  return AccountView.writeAll (rows.map Account.view)

def byId (app : App) (text : String) : Except ServiceError (Except String Json.Value) := do
  let id ← readId "account_id" text
  match ← fromStore (app.source.findById id) with
  | some a => return a.view.write
  | none => throw (.ofStore (.notFound "Account" id.text))

/-! ## Routing -/

/-- The text of the only capture of a path; where a route has more, the service is at fault. -/
def withCapture (captures : Captures)
    (answer : String → Except ServiceError (Except String Json.Value)) : Response :=
  match captures.mapM fun (name, raw) =>
      ((Text.Percent.decode raw).toOption.map String.ofList).elim (Except.error name) Except.ok with
  | .error name => .ofText 400 s!"Invalid URL: Invalid UTF-8 in `{name}`"
  | .ok [text] => respond (answer text)
  | .ok texts =>
    .ofText 500 (s!"Wrong number of path arguments for `Path`. " ++
      s!"Expected 1 but got {texts.length}. " ++
      "Note that multiple parameters must be extracted with a tuple `Path<(_, _)>` or a struct " ++
      "`Path<YourParams>`")

/-- The answer of a route to a reading request. -/
def answer (app : App) (kind : Resource) (captures : Captures) (req : Request) : Response :=
  match kind with
  | .health => .ofStatus 204
  | .metrics => ⟨200, [("content-type", "text/plain; version=0.0.4")], .measurements⟩
  | .listing => respond (app.list req.uri.query)
  | .byNumber => withCapture captures app.byNumber
  | .byCompany => withCapture captures app.byCompany
  | .byId => withCapture captures app.byId

/-- The first route that matches a path. -/
def route? (routes : Routes) (path : List Char) : Option (Resource × Captures) :=
  routes.findSome? fun (p, kind) => (p.match? path).map fun captures => (kind, captures)

def isReading (method : String) : Bool := method == "GET" || method == "HEAD"

/-- The methods that routes serve. -/
def allowField : Headers := [("allow", "GET,HEAD")]

/-- The identifier that a request brings comes back with the response. -/
def requestIdField (req : Request) : Headers :=
  match req.headers.first? "x-request-id" with
  | some id => [("x-request-id", id)]
  | none => []

/-- The response to a request, compressed and shared with other origins as asked for. -/
def handle (app : App) (req : Request) : Response :=
  let dress (answer : Unit → Response) : Response :=
    (compress req (share app.origins req answer)).adding (requestIdField req)
  match route? app.routes req.uri.path with
  | none => dress fun _ => .ofStatus 404
  | some (kind, captures) =>
    if isReading req.method then
      let res := dress fun _ => app.answer kind captures req
      if req.method = "HEAD" then { res with body := .empty } else res
    else (dress fun _ => .ofStatus 405).adding allowField

end App

end AccountRegistry
