import AccountRegistry.Proofs.Text.Split
import AccountRegistry.Settings.Basic

/-! # Masked connection texts

The password of a connection text stands between the first colon of what comes before the last
at-sign and that at-sign, whatever is in it. Masking replaces just this part, so nothing of the
password is left and nothing remains to be masked.
-/

namespace AccountRegistry

/-- A text with its scheme, a user up to the first colon, a password, and what follows the last
at-sign. -/
structure HasPassword (cs scheme user password address : List Char) : Prop where
  scheme : Text.IsFirstSplit "://".toList cs scheme (user ++ ':' :: password ++ '@' :: address)
  user : ':' ∉ user
  address : '@' ∉ address

theorem HasPassword.maskChars_eq {cs scheme user password address : List Char}
    (h : HasPassword cs scheme user password address) : maskChars cs =
      scheme ++ "://".toList ++ (user ++ ':' :: passwordMask ++ '@' :: address) := by
  rw [maskChars, Text.splitFirst?_eq_some_iff.mpr h.scheme]
  dsimp only
  rw [Text.splitLast?_char_iff.mpr ⟨rfl, h.address⟩]
  dsimp only
  rw [Text.splitFirst?_char_iff.mpr ⟨rfl, h.user⟩]
  simp

/-- Another password in the place of one. -/
theorem HasPassword.replace {cs scheme user password address : List Char}
    (h : HasPassword cs scheme user password address) (other : List Char) :
    HasPassword (scheme ++ "://".toList ++ (user ++ ':' :: other ++ '@' :: address)) scheme user
      other address :=
  ⟨h.scheme.replace _, h.user, h.address⟩

/-- A text in which no password is found stays as it is. -/
theorem maskChars_eq_or_hasPassword (cs : List Char) : maskChars cs = cs ∨
    ∃ scheme user password address, HasPassword cs scheme user password address := by
  rw [maskChars]
  split
  · exact .inl rfl
  · next scheme rest hscheme =>
    split
    · exact .inl rfl
    · next userInfo address haddress =>
      split
      · exact .inl rfl
      · next user password huser =>
        obtain ⟨rfl, hcolon⟩ := Text.splitFirst?_char_iff.mp huser
        obtain ⟨rfl, hsign⟩ := Text.splitLast?_char_iff.mp haddress
        exact .inr ⟨scheme, user, password, address, Text.splitFirst?_eq_some_iff.mp hscheme,
          hcolon, hsign⟩

theorem maskChars_idempotent (cs : List Char) : maskChars (maskChars cs) = maskChars cs := by
  rcases maskChars_eq_or_hasPassword cs with h | ⟨scheme, user, password, address, h⟩
  · rw [h, h]
  · rw [h.maskChars_eq, (h.replace passwordMask).maskChars_eq]

/-! ## Texts put together from parts -/

/-- Of the user and the address only the parts before the first colon and behind the last at-sign
are told apart from the password, and which parts these are does not depend on the password. -/
theorem exists_shown_parts (user address : List Char) :
    ∃ user' address', ':' ∉ user' ∧ '@' ∉ address' ∧ ∀ password, ∃ secret,
      user ++ ':' :: password ++ '@' :: address = user' ++ ':' :: secret ++ '@' :: address' := by
  have hfirst : ∃ user', ':' ∉ user' ∧
      ∀ more, ∃ secret, user ++ ':' :: more = user' ++ ':' :: secret := by
    by_cases h : ':' ∈ user
    · obtain ⟨shown, rest, rfl, hshown⟩ := List.eq_append_cons_of_mem h
      exact ⟨shown, hshown, fun more => ⟨rest ++ ':' :: more, by simp⟩⟩
    · exact ⟨user, h, fun more => ⟨more, rfl⟩⟩
  have hlast : ∃ address', '@' ∉ address' ∧
      ∀ more, ∃ secret, more ++ '@' :: address = secret ++ '@' :: address' := by
    by_cases h : '@' ∈ address
    · obtain ⟨rest, shown, rfl, hshown⟩ := Text.exists_last_of_mem h
      exact ⟨shown, hshown, fun more => ⟨more ++ '@' :: rest, by simp⟩⟩
    · exact ⟨address, h, fun more => ⟨more, rfl⟩⟩
  obtain ⟨user', huser, hfirst⟩ := hfirst
  obtain ⟨address', haddress, hlast⟩ := hlast
  refine ⟨user', address', huser, haddress, fun password => ?_⟩
  obtain ⟨more, hmore⟩ := hlast password
  obtain ⟨secret, hsecret⟩ := hfirst more
  refine ⟨secret, ?_⟩
  calc user ++ ':' :: password ++ '@' :: address
      = user ++ ':' :: (password ++ '@' :: address) := List.append_assoc ..
    _ = user ++ ':' :: more ++ '@' :: address' := by rw [hmore, List.append_assoc]; rfl
    _ = user' ++ ':' :: secret ++ '@' :: address' := by rw [hsecret]

/-- How a connection text names a password. -/
def passwordPart : Option (List Char) → List Char
  | none => []
  | some password => ':' :: password

theorem toList_connectionText (user : String) (password : Option String) (host : String)
    (port : UInt16) (database : String) :
    (connectionText user password host port database).toList =
      "postgres".toList ++ "://".toList ++ (user.toList ++ passwordPart (password.map String.toList)
        ++ '@' :: (host.toList ++ ':' :: Nat.toDigits 10 port.toNat ++ '/' :: database.toList)) := by
  unfold connectionText
  dsimp only [toString]
  cases password with
  | none =>
    simp only [String.toList_append, List.append_assoc, Nat.toList_repr]
    rfl
  | some p =>
    simp only [String.toList_append, List.append_assoc, Nat.toList_repr]
    rfl

/-- A masked connection text can be told without the password. -/
theorem exists_maskPassword_connectionText (user host : String) (port : UInt16)
    (database : String) : ∃ masked, ∀ password : String,
      maskPassword (connectionText user (some password) host port database) = masked := by
  obtain ⟨user', address', huser, haddress, hparts⟩ := exists_shown_parts user.toList
    (host.toList ++ ':' :: Nat.toDigits 10 port.toNat ++ '/' :: database.toList)
  refine ⟨String.ofList ("postgres".toList ++ "://".toList ++
    (user' ++ ':' :: passwordMask ++ '@' :: address')), fun password => ?_⟩
  obtain ⟨secret, hsecret⟩ := hparts password.toList
  have hscheme (rest : List Char) : Text.IsFirstSplit "://".toList
      ("postgres".toList ++ "://".toList ++ rest) "postgres".toList rest :=
    Text.splitFirst?_eq_some_iff.mp rfl
  rw [maskPassword, toList_connectionText, Option.map_some, passwordPart, hsecret,
    HasPassword.maskChars_eq ⟨hscheme _, huser, haddress⟩]

/-- Of the password nothing is left. Settings that differ in the password alone have the same masked
text. Where a user without a colon, a password and an address without an at-sign follow the first
scheme mark, just the password is replaced, whatever is in it. Masking again changes nothing. -/
theorem masking_hides_password :
    (∀ (d : DatabaseAccess) (password other : String), d.url = none →
      { d with password := some password }.maskedConnection =
        { d with password := some other }.maskedConnection) ∧
    (∀ connection scheme user password address : String,
      Text.IsFirstSplit "://".toList connection.toList scheme.toList
        (user ++ ":" ++ password ++ "@" ++ address).toList →
      ':' ∉ user.toList → '@' ∉ address.toList →
      maskPassword connection = scheme ++ "://" ++ user ++ ":****@" ++ address) ∧
    ∀ connection, maskPassword (maskPassword connection) = maskPassword connection := by
  refine ⟨fun d password other hurl => ?_, ?_, fun connection => ?_⟩
  · obtain ⟨masked, hmasked⟩ := exists_maskPassword_connectionText d.user d.host d.port d.database
    unfold DatabaseAccess.maskedConnection DatabaseAccess.connection
    rw [hurl]
    exact (hmasked password).trans (hmasked other).symm
  · intro connection scheme user password address hscheme huser haddress
    have hpassword : HasPassword connection.toList scheme.toList user.toList password.toList
        address.toList := by
      refine ⟨?_, huser, haddress⟩
      simpa [String.toList_append] using hscheme
    rw [← String.toList_inj, maskPassword, hpassword.maskChars_eq, String.toList_ofList]
    simp [String.toList_append, passwordMask]
  · rw [maskPassword, maskPassword, String.toList_ofList, maskChars_idempotent]

/-- A password with every sign that a connection text is cut at. -/
theorem masking_hides_signs :
    let d := DatabaseAccess.standard
    { d with password := some "p@s:s/x://y" }.maskedConnection =
      { d with password := some "" }.maskedConnection ∧
    Text.IsFirstSplit "://".toList "postgres://bank:p@s:s/x://y@db:5432/accounts".toList
      "postgres".toList "bank:p@s:s/x://y@db:5432/accounts".toList ∧
    maskPassword "postgres://bank:p@s:s/x://y@db:5432/accounts" =
      "postgres://bank:****@db:5432/accounts" := by
  intro d
  obtain ⟨hsettings, hparts, -⟩ := masking_hides_password
  have hscheme : Text.IsFirstSplit "://".toList
      "postgres://bank:p@s:s/x://y@db:5432/accounts".toList "postgres".toList
      "bank:p@s:s/x://y@db:5432/accounts".toList :=
    Text.splitFirst?_eq_some_iff.mp rfl
  exact ⟨hsettings d _ _ rfl, hscheme, hparts _ "postgres" "bank" "p@s:s/x://y" "db:5432/accounts"
    hscheme (by decide) (by decide)⟩

end AccountRegistry
