import AccountRegistry.Http.Message

/-! # Requests from other origins

Browsers let pages of an origin read responses only if these allow it. Without a list of origins all
are allowed. Preliminary requests are answered here and go no further.
-/

namespace AccountRegistry.Http

/-- The origins that are allowed; all of them if there is no list. -/
abbrev Origins := Option (List String)

/-- The origin that a response allows. -/
def allowedOrigin? (origins : Origins) (req : Request) : Option String :=
  match origins with
  | none => some "*"
  | some listed =>
    (req.headers.first? "origin").bind fun o => if listed.contains o then some o else none

/-- Fields of every response. -/
def originFields (origins : Origins) (req : Request) : Headers :=
  match allowedOrigin? origins req with
  | some o => [("access-control-allow-origin", o)]
  | none => []

/-- Methods and header fields that other origins may use. -/
def preflightFields (origins : Origins) : Headers :=
  match origins with
  | none => [("access-control-allow-methods", "*"), ("access-control-allow-headers", "*")]
  | some _ =>
    [("access-control-allow-methods", "GET,OPTIONS"),
     ("access-control-allow-headers", "authorization,content-type")]

/-- Answers preliminary requests and adds the fields for other origins to all responses. -/
def share (origins : Origins) (req : Request) (answer : Unit → Response) : Response :=
  if req.method = "OPTIONS" then
    (Response.ofStatus 200).adding (originFields origins req ++ preflightFields origins)
  else (answer ()).adding (originFields origins req)

end AccountRegistry.Http
