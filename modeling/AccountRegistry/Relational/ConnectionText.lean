import AccountRegistry.Text.Split

/-! # Connection texts

A connection text names a scheme, a user, a password, a host with its port, and a database. In a
masked text nothing is left of the password.
-/

namespace AccountRegistry

/-- What a password is replaced by. -/
def passwordMask : List Char := "****".toList

/-- Masks the password that stands before the last at-sign behind the scheme. -/
def maskChars (cs : List Char) : List Char :=
  match Text.splitFirst? "://".toList cs with
  | none => cs
  | some (scheme, rest) =>
    match Text.splitLast? ['@'] rest with
    | none => cs
    | some (userInfo, host) =>
      match Text.splitFirst? [':'] userInfo with
      | none => cs
      | some (user, _) => scheme ++ "://".toList ++ user ++ ':' :: passwordMask ++ '@' :: host

def maskPassword (connection : String) : String := String.ofList (maskChars connection.toList)

/-- The connection text for a database, with the password if there is one. -/
def connectionText (user : String) (password : Option String) (host : String) (port : UInt16)
    (database : String) : String :=
  let secret := match password with
    | some p => ":" ++ p
    | none => ""
  s!"postgres://{user}{secret}@{host}:{port.toNat}/{database}"

end AccountRegistry
