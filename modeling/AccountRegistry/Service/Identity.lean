import AccountRegistry.Account
import AccountRegistry.Http.Message
import AccountRegistry.Text.Blank

/-! # Callers

A caller shows a token, which a provider turns into a user. Without a token that a provider knows
the caller is anonymous; no request fails for that.
-/

namespace AccountRegistry

structure User where
  id : Uuid
  name : String
  email : String
  companyId : Uuid
  companyName : String
  deriving DecidableEq, Repr

namespace User

def anonymousId : Uuid := .ofNat 0x1a00212b01514aae9ffddaf367461d08

def anonymous : User :=
  ⟨anonymousId, "anonymous", "anonymous@company.com", .ofNat 0xa422fb8c046e4786a07693039cc9aab5,
    "anonymous"⟩

def isAnonymous (u : User) : Bool := u.id == anonymousId

/-- The user that any token stands for where no other provider is set. -/
def unknown : User :=
  ⟨.ofNat 0x523b8267098d4b16b86f95f923da9ebd, "Unknown User", "email@company.com",
    .ofNat 0x0fadca55564549a4978244b849930bb7, "Unknown Company"⟩

def shape : Shape User :=
  Shape.mapTo
    (.record "User" <|
      .required "id" Uuid.shape <|
      .required "name" .text <|
      .required "email" .text <|
      .required "company_id" Uuid.shape <|
      .required "company_name" .text .nil)
    (fun (id, name, email, companyId, companyName, ()) => ⟨id, name, email, companyId, companyName⟩)
    (fun u => (u.id, u.name, u.email, u.companyId, u.companyName, ()))

end User

/-- Turns a token into a user, or refuses it. -/
abbrev IdentityProvider := String → Option User

/-- Accepts every token that is not empty. -/
def standardProvider : IdentityProvider := fun token =>
  if token.isEmpty then none else some .unknown

/-- The token of a request: what follows the first blank of the first field for it, if the word
before that is the name of its scheme. -/
def bearerToken? (hs : Http.Headers) : Option String := do
  let value ← hs.first? "authorization"
  if !Http.isReadable value then none
  let (scheme, rest) ← Text.splitFirst? [' '] value.toList
  let token := Text.trim rest
  if scheme.map Char.toLower = "bearer".toList ∧ !token.isEmpty then some (String.ofList token)
  else none

/-- The user behind a request. -/
def caller (provider : IdentityProvider) (hs : Http.Headers) : User :=
  match bearerToken? hs with
  | none => .anonymous
  | some token => (provider token).getD .anonymous

end AccountRegistry
