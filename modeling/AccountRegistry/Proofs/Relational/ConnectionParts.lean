import AccountRegistry.Proofs.Relational.Masking
import AccountRegistry.Proofs.Text.Escapes
import AccountRegistry.Proofs.Text.Numeral
import AccountRegistry.Settings.Check
import Mathlib.Data.List.TakeWhile

/-! # Parts of connection texts

A connection text is read by the rules of locators: an authority with a user, a password, a host and
a port, and a path that names the database. The text that is put together from parts is read as these
parts exactly if no sign in them ends a part too early and nothing in them is an escape.
-/

namespace AccountRegistry

/-! ## Reading connection texts -/

/-- The parts of a connection text as they stand in it. -/
@[ext] structure RawParts where
  user : List Char
  password : Option (List Char)
  host : List Char
  port : List Char
  database : List Char

/-- Where the part of a locator ends that names a user and a host. -/
def authorityEnds : List Char := ['/', '?', '#']

def pathEnds : List Char := ['?', '#']

def inAuthority (c : Char) : Bool := !authorityEnds.contains c

def inPath (c : Char) : Bool := !pathEnds.contains c

/-- The first colon ends the user. -/
def splitUserInfo (cs : List Char) : List Char × Option (List Char) :=
  match Text.splitFirst? [':'] cs with
  | some (user, password) => (user, some password)
  | none => (cs, none)

/-- The parts of what follows the scheme. The last at-sign of the authority ends the user and the
password, and the last colon behind it ends the host. -/
def RawParts.read? (rest : List Char) : Option RawParts := do
  let (userInfo, address) ← Text.splitLast? ['@'] (rest.takeWhile inAuthority)
  let (host, port) ← Text.splitLast? [':'] address
  let (user, password) := splitUserInfo userInfo
  return ⟨user, password, host, port, ((rest.dropWhile inAuthority).takeWhile inPath).drop 1⟩

/-- What a connection text names. -/
structure ConnectionParts where
  user : String
  password : Option String
  host : String
  port : UInt16
  database : String
  deriving DecidableEq, Repr

def readPort? (cs : List Char) : Option UInt16 :=
  (Decimal.digits64? cs).bind fun n => if n < UInt16.size then some (.ofNat n) else none

/-- The text that a part with escapes stands for. -/
def unescaped? (cs : List Char) : Option String :=
  (Text.Percent.decode cs).toOption.map String.ofList

/-- The parts that a connection text names, if it names all of them; a password may be left out. -/
def ConnectionParts.read? (text : String) : Option ConnectionParts := do
  let (_, rest) ← Text.splitFirst? "://".toList text.toList
  let raw ← RawParts.read? rest
  return ⟨← unescaped? raw.user, ← raw.password.mapM unescaped?, String.ofList raw.host,
    ← readPort? raw.port, ← unescaped? raw.database⟩

example : ConnectionParts.read? "postgres://bank:p%40ss@db:5432/accounts?sslmode=require" =
    some ⟨"bank", some "p@ss", "db", 5432, "accounts"⟩ := by
  decide +kernel

theorem passwordPart_inj {password other : Option (List Char)} :
    passwordPart password = passwordPart other ↔ password = other := by
  cases password <;> cases other <;> simp [passwordPart]

theorem splitUserInfo_eq_iff {cs user : List Char} {password : Option (List Char)} :
    splitUserInfo cs = (user, password) ↔ cs = user ++ passwordPart password ∧ ':' ∉ user := by
  unfold splitUserInfo
  cases password with
  | none =>
    rw [passwordPart, List.append_nil]
    split
    · next before after hsplit =>
      obtain ⟨rfl, -⟩ := Text.splitFirst?_char_iff.mp hsplit
      refine iff_of_false (by simp) ?_
      rintro ⟨rfl, h⟩
      exact h (List.mem_append_right before List.mem_cons_self)
    · next hsplit =>
      rw [Text.splitFirst?_char_eq_none_iff] at hsplit
      constructor
      · intro h
        cases h
        exact ⟨rfl, hsplit⟩
      · rintro ⟨rfl, -⟩
        rfl
  | some password =>
    rw [passwordPart, ← Text.splitFirst?_char_iff]
    split
    · next before after hsplit => simp [hsplit]
    · next hsplit => simp [hsplit]

/-- How parts stand in the text behind a scheme. -/
structure RawParts.StandsIn (p : RawParts) (rest : List Char) : Prop where
  authority : rest.takeWhile inAuthority =
    p.user ++ passwordPart p.password ++ '@' :: (p.host ++ ':' :: p.port)
  user : ':' ∉ p.user
  address : '@' ∉ p.host ++ ':' :: p.port
  port : ':' ∉ p.port
  database : ((rest.dropWhile inAuthority).takeWhile inPath).drop 1 = p.database

theorem RawParts.read?_eq_some_iff {rest : List Char} {p : RawParts} :
    read? rest = some p ↔ p.StandsIn rest := by
  unfold read?
  simp only [Option.bind_eq_bind, Option.bind_eq_some_iff, Prod.exists, Text.splitLast?_char_iff]
  constructor
  · rintro ⟨userInfo, address, ⟨hauthority, haddress⟩, host, port, ⟨rfl, hport⟩, h⟩
    obtain ⟨⟨user, password⟩, hsplit⟩ : ∃ q, splitUserInfo userInfo = q := ⟨_, rfl⟩
    obtain ⟨rfl, huser⟩ := splitUserInfo_eq_iff.mp hsplit
    rw [hsplit] at h
    cases h
    exact ⟨hauthority, huser, haddress, hport, rfl⟩
  · rintro ⟨hauthority, huser, haddress, hport, hdatabase⟩
    refine ⟨_, _, ⟨hauthority, haddress⟩, _, _, ⟨rfl, hport⟩, ?_⟩
    rw [splitUserInfo_eq_iff.mpr ⟨rfl, huser⟩, hdatabase]
    rfl

/-! ## Parts put together -/

namespace RawParts

/-- The text of some parts behind a scheme. -/
def text (p : RawParts) : List Char :=
  p.user ++ passwordPart p.password ++ '@' :: (p.host ++ ':' :: p.port ++ '/' :: p.database)

/-- No sign in a part ends it too early. -/
structure KeepApart (p : RawParts) : Prop where
  authority : ∀ c ∈ p.user ++ passwordPart p.password ++ '@' :: (p.host ++ ':' :: p.port),
    inAuthority c = true
  user : ':' ∉ p.user
  address : '@' ∉ p.host ++ ':' :: p.port
  port : ':' ∉ p.port
  database : ∀ c ∈ p.database, inPath c = true

theorem text_eq (p : RawParts) : p.text =
    (p.user ++ passwordPart p.password ++ '@' :: (p.host ++ ':' :: p.port)) ++
      '/' :: p.database := by
  simp [text]

theorem KeepApart.standsIn_text {p : RawParts} (h : p.KeepApart) : p.StandsIn p.text := by
  have hslash : ¬ inAuthority '/' = true := by decide
  refine ⟨?_, h.user, h.address, h.port, ?_⟩
  · rw [text_eq, List.takeWhile_append_of_pos h.authority, List.takeWhile_cons_of_neg hslash,
      List.append_nil]
  · rw [text_eq, List.dropWhile_append_of_pos h.authority, List.dropWhile_cons_of_neg hslash,
      List.takeWhile_cons_of_pos (by decide), List.drop_one, List.tail_cons,
      List.takeWhile_eq_self_iff.mpr h.database]

/-- Behind the authority there is at least a slash and the database that is read. -/
theorem StandsIn.length_database_lt {raw p : RawParts} (h : raw.StandsIn p.text) :
    raw.database.length < (p.text.dropWhile inAuthority).length := by
  have hslash : p.text.dropWhile inAuthority ≠ [] := fun hnil => by
    have hmem : '/' ∈ p.text := by simp [text]
    exact absurd (List.dropWhile_eq_nil_iff.mp hnil '/' hmem) (by decide)
  have hpath := (List.takeWhile_prefix inPath (l := p.text.dropWhile inAuthority)).length_le
  have hpos := List.length_pos_iff.mpr hslash
  rw [← h.database, List.length_drop]
  omega

/-- Parts that are read from the text of others, none of them shorter, are these. -/
theorem StandsIn.eq_of_length_le {raw p : RawParts} (h : raw.StandsIn p.text)
    (huser : p.user.length ≤ raw.user.length)
    (hpassword : (passwordPart p.password).length ≤ (passwordPart raw.password).length)
    (hhost : raw.host = p.host) (hport : p.port.length ≤ raw.port.length)
    (hdatabase : p.database.length ≤ raw.database.length) : raw = p ∧ p.KeepApart := by
  -- The parts that were read and what follows them make up the whole text, so none is longer.
  have hrest := h.length_database_lt
  have hwhole := (List.takeWhile_append_dropWhile (p := inAuthority) (l := p.text)).trans p.text_eq
  have hlength := congrArg List.length hwhole
  rw [h.authority] at hwhole hlength
  simp only [List.length_append, List.length_cons, hhost] at hlength
  obtain ⟨hauthority, hpath⟩ := List.append_inj hwhole
    (by simp only [List.length_append, List.length_cons, hhost]; omega)
  obtain ⟨huserInfo, haddress⟩ := List.append_inj hauthority
    (by simp only [List.length_append]; omega)
  obtain ⟨huser, hpassword⟩ := List.append_inj huserInfo (by omega)
  rw [hhost, List.cons.injEq, List.append_cancel_left_eq, List.cons.injEq] at haddress
  have htaken : p.database.takeWhile inPath = raw.database := by
    rw [← h.database, hpath, List.takeWhile_cons_of_pos (by decide)]
    rfl
  have hdatabase : p.database.takeWhile inPath = p.database :=
    (List.takeWhile_prefix inPath).eq_of_length_le (htaken ▸ hdatabase)
  obtain rfl : raw = p := RawParts.ext huser (passwordPart_inj.mp hpassword) hhost haddress.2.2
    (htaken.symm.trans hdatabase)
  refine ⟨rfl, ⟨fun c hc => ?_, h.user, h.address, h.port, List.takeWhile_eq_self_iff.mp hdatabase⟩⟩
  exact List.mem_takeWhile_imp (h.authority ▸ hc)

end RawParts

/-! ## What parts mean -/

theorem unescaped?_eq_some_iff {cs : List Char} {s : String} :
    unescaped? cs = some s ↔ Text.Percent.decode cs = .ok s.toList := by
  simp only [unescaped?, Option.map_eq_some_iff, toOption_eq_some_iff]
  constructor
  · rintro ⟨read, hread, rfl⟩
    rw [hread, String.toList_ofList]
  · exact fun h => ⟨s.toList, h, String.ofList_toList⟩

theorem readPort?_eq_some_iff {cs : List Char} {port : UInt16} :
    readPort? cs = some port ↔ Decimal.digits64? cs = some port.toNat := by
  have hport := port.toNat_lt
  simp only [readPort?, Option.bind_eq_some_iff]
  constructor
  · rintro ⟨n, hn, h⟩
    rw [Option.ite_none_right_eq_some] at h
    obtain ⟨hsize, h⟩ := h
    cases h
    rwa [UInt16.toNat_ofNat_of_lt' hsize]
  · intro h
    exact ⟨_, h, by rw [if_pos hport, UInt16.ofNat_toNat]⟩

/-- A port is written in as few digits as any text that is read as it. -/
theorem length_toDigits_le_of_readPort? {cs : List Char} {port : UInt16}
    (h : readPort? cs = some port) : (Nat.toDigits 10 port.toNat).length ≤ cs.length := by
  obtain ⟨hne, hdigits, hvalue, -⟩ := Decimal.digits64?_eq_some_iff.mp (readPort?_eq_some_iff.mp h)
  rw [← hvalue]
  exact Decimal.length_toDigits_le hne hdigits

theorem readPort?_toDigits (port : UInt16) :
    readPort? (Nat.toDigits 10 port.toNat) = some port := by
  have hport := port.toNat_lt
  rw [readPort?_eq_some_iff, Decimal.digits64?_eq_some_iff]
  refine ⟨Nat.toDigits_ne_nil, fun c hc => ?_, Nat.ofDigitChars_ten_toDigits, ?_⟩
  · exact Nat.isDigit_of_mem_toDigits (by decide) (by decide) hc
  · exact Nat.lt_trans hport (by decide)

/-- Parts as they stand in a text mean others once their escapes are read. -/
structure RawParts.Means (raw : RawParts) (p : ConnectionParts) : Prop where
  user : Text.Percent.decode raw.user = .ok p.user.toList
  password : Option.Rel (fun cs s => Text.Percent.decode cs = .ok s.toList) raw.password p.password
  host : raw.host = p.host.toList
  port : readPort? raw.port = some p.port
  database : Text.Percent.decode raw.database = .ok p.database.toList

namespace ConnectionParts

variable {p : ConnectionParts}

theorem mapM_unescaped?_eq_some_iff {raw : Option (List Char)} {password : Option String} :
    raw.mapM unescaped? = some password ↔
      Option.Rel (fun cs s => Text.Percent.decode cs = .ok s.toList) raw password := by
  cases raw <;> cases password <;> simp [unescaped?_eq_some_iff]

theorem read?_eq_some_iff {text : String} {scheme rest : List Char}
    (h : Text.IsFirstSplit "://".toList text.toList scheme rest) :
    read? text = some p ↔ ∃ raw : RawParts, raw.StandsIn rest ∧ raw.Means p := by
  unfold read?
  rw [Text.splitFirst?_eq_some_iff.mpr h]
  simp only [Option.bind_eq_bind, Option.bind_some, Option.bind_eq_some_iff,
    RawParts.read?_eq_some_iff, unescaped?_eq_some_iff, mapM_unescaped?_eq_some_iff]
  constructor
  · rintro ⟨raw, hraw, user, huser, password, hpassword, port, hport, database, hdatabase, h⟩
    cases h
    exact ⟨raw, hraw, huser, hpassword, String.toList_ofList.symm, hport, hdatabase⟩
  · rintro ⟨raw, hraw, huser, hpassword, hhost, hport, hdatabase⟩
    refine ⟨raw, hraw, _, huser, _, hpassword, _, hport, _, hdatabase, ?_⟩
    rw [hhost, String.ofList_toList]
    rfl

/-- The parts as they stand in a connection text. -/
def raw (p : ConnectionParts) : RawParts :=
  ⟨p.user.toList, p.password.map String.toList, p.host.toList, Nat.toDigits 10 p.port.toNat,
    p.database.toList⟩

def text (p : ConnectionParts) : String :=
  connectionText p.user p.password p.host p.port p.database

theorem isFirstSplit_text (p : ConnectionParts) :
    Text.IsFirstSplit "://".toList p.text.toList "postgres".toList p.raw.text := by
  rw [text, toList_connectionText]
  exact Text.splitFirst?_eq_some_iff.mp rfl

theorem length_passwordPart_le {raw : Option (List Char)} {password : Option String}
    (h : Option.Rel (fun cs s => Text.Percent.decode cs = .ok s.toList) raw password) :
    (passwordPart (password.map String.toList)).length ≤ (passwordPart raw).length := by
  cases h with
  | none => exact Nat.le_refl _
  | some h => exact Nat.succ_le_succ (Text.Percent.length_le_of_decode h)

/-- Parts are read back from their text exactly if they stand apart in it and for themselves. -/
theorem read?_text_iff : read? p.text = some p ↔ p.raw.KeepApart ∧ p.raw.Means p := by
  rw [read?_eq_some_iff p.isFirstSplit_text]
  constructor
  · rintro ⟨raw, hraw, hmeans⟩
    obtain ⟨rfl, happart⟩ := hraw.eq_of_length_le (Text.Percent.length_le_of_decode hmeans.user)
      (length_passwordPart_le hmeans.password) hmeans.host
      (length_toDigits_le_of_readPort? hmeans.port)
      (Text.Percent.length_le_of_decode hmeans.database)
    exact ⟨happart, hmeans⟩
  · rintro ⟨happart, hmeans⟩
    exact ⟨p.raw, happart.standsIn_text, hmeans⟩

end ConnectionParts

/-! ## Parts that stand for themselves -/

/-- A text without some signs and without escapes. -/
def IsVerbatim (signs : List Char) (s : String) : Prop :=
  (∀ c ∈ signs, c ∉ s.toList) ∧ ¬ Text.Percent.HasEscape s.toList

/-- Labels of letters, digits and hyphens with dots between them. -/
def IsHostName (s : String) : Prop :=
  s ≠ "" ∧ ∀ c ∈ s.toList, c.isAlphanum = true ∨ c = '-' ∨ c = '.'

namespace ConnectionParts

variable {p : ConnectionParts}

theorem means_raw_iff : p.raw.Means p ↔ ¬ Text.Percent.HasEscape p.user.toList ∧
    (∀ password ∈ p.password, ¬ Text.Percent.HasEscape password.toList) ∧
    ¬ Text.Percent.HasEscape p.database.toList := by
  simp only [← Text.Percent.decode_eq_self_iff]
  constructor
  · rintro ⟨huser, hpassword, -, -, hdatabase⟩
    refine ⟨huser, fun password hp => ?_, hdatabase⟩
    rw [raw, Option.mem_def.mp hp] at hpassword
    cases hpassword with
    | some h => exact h
  · rintro ⟨huser, hpassword, hdatabase⟩
    refine ⟨huser, ?_, rfl, readPort?_toDigits p.port, hdatabase⟩
    rw [raw]
    cases hp : p.password with
    | none => exact .none
    | some password => exact .some (hpassword password hp)

theorem forall_not_contains_iff {signs cs : List Char} :
    (∀ c ∈ cs, (!signs.contains c) = true) ↔ ∀ sign ∈ signs, sign ∉ cs := by
  simp only [Bool.not_eq_true', List.contains_eq_mem, decide_eq_false_iff_not]
  exact ⟨fun h sign hsign hcs => h sign hcs hsign, fun h c hc hsign => h c hsign hc⟩

/-- What names of hosts and ports are made of. -/
theorem inAuthority_of_isAlphanum {c : Char} (h : c.isAlphanum = true ∨ c = '-' ∨ c = '.') :
    inAuthority c = true ∧ c ≠ '@' ∧ c ≠ ':' := by
  have hsigns : ∀ sign ∈ ['/', '?', '#', '@', ':'],
      ¬ (sign.isAlphanum = true ∨ sign = '-' ∨ sign = '.') :=
    List.forall_iff_forall_mem.mp (by decide)
  have hne : ∀ sign ∈ ['/', '?', '#', '@', ':'], c ≠ sign := by
    rintro sign hsign rfl
    exact hsigns c hsign h
  simpa [inAuthority, authorityEnds, and_assoc] using hne

theorem keepApart_raw_iff (hhost : IsHostName p.host) : p.raw.KeepApart ↔
    (∀ c ∈ ':' :: authorityEnds, c ∉ p.user.toList) ∧
    (∀ password ∈ p.password, ∀ c ∈ authorityEnds, c ∉ password.toList) ∧
    ∀ c ∈ pathEnds, c ∉ p.database.toList := by
  have hport : ∀ c ∈ Nat.toDigits 10 p.port.toNat, inAuthority c = true ∧ c ≠ '@' ∧ c ≠ ':' := by
    intro c hc
    refine inAuthority_of_isAlphanum (.inl ?_)
    simp [Char.isAlphanum, Nat.isDigit_of_mem_toDigits (by decide) (by decide) hc]
  have hname : ∀ c ∈ p.host.toList, inAuthority c = true ∧ c ≠ '@' ∧ c ≠ ':' :=
    fun c hc => inAuthority_of_isAlphanum (hhost.2 c hc)
  simp only [← forall_not_contains_iff, List.forall_mem_cons]
  constructor
  · rintro ⟨hauthority, huser, -, -, hdatabase⟩
    rw [List.forall_mem_append, List.forall_mem_append] at hauthority
    obtain ⟨⟨huser', hpassword⟩, -⟩ := hauthority
    refine ⟨⟨huser, huser'⟩, fun password hp c hc => hpassword c ?_, hdatabase⟩
    rw [raw, Option.mem_def.mp hp]
    exact List.mem_cons_of_mem ':' hc
  · rintro ⟨⟨huser, huser'⟩, hpassword, hdatabase⟩
    have hpart : ∀ c ∈ passwordPart p.raw.password, inAuthority c = true := by
      rw [raw]
      cases hp : p.password with
      | none => exact List.forall_mem_nil _
      | some password => exact List.forall_mem_cons.mpr ⟨by decide, hpassword password hp⟩
    have haddress : ∀ c ∈ p.raw.host ++ ':' :: p.raw.port, inAuthority c = true ∧ c ≠ '@' :=
      List.forall_mem_append.mpr ⟨fun c hc => ⟨(hname c hc).1, (hname c hc).2.1⟩,
        List.forall_mem_cons.mpr ⟨by decide, fun c hc => ⟨(hport c hc).1, (hport c hc).2.1⟩⟩⟩
    refine ⟨?_, huser, fun h => (haddress _ h).2 rfl, fun h => (hport _ h).2.2 rfl, hdatabase⟩
    exact List.forall_mem_append.mpr ⟨List.forall_mem_append.mpr ⟨huser', hpart⟩,
      List.forall_mem_cons.mpr ⟨by decide, fun c hc => (haddress c hc).1⟩⟩

end ConnectionParts

/-- What the settings of a database say in parts. -/
def DatabaseAccess.parts (d : DatabaseAccess) : ConnectionParts :=
  ⟨d.user, d.password, d.host, d.port, d.database⟩

/-- The parts of settings are read back from their connection text exactly if nothing in the user,
the password and the database is an escape or a sign that ends the part: at-signs may stand in
user and password, colons in the password and slashes in the database. -/
theorem connection_is_read_back_iff {d : DatabaseAccess} (hurl : d.url = none)
    (hhost : IsHostName d.host) :
    ConnectionParts.read? d.connection = some d.parts ↔
      IsVerbatim (':' :: authorityEnds) d.user ∧
      (∀ password ∈ d.password, IsVerbatim authorityEnds password) ∧
      IsVerbatim pathEnds d.database := by
  have htext : d.connection = d.parts.text := by
    rw [DatabaseAccess.connection, hurl]
    rfl
  rw [htext, ConnectionParts.read?_text_iff, ConnectionParts.means_raw_iff,
    ConnectionParts.keepApart_raw_iff hhost]
  constructor
  · rintro ⟨⟨huser, hpassword, hdatabase⟩, huser', hpassword', hdatabase'⟩
    exact ⟨⟨huser, huser'⟩, fun password h => ⟨hpassword password h, hpassword' password h⟩,
      hdatabase, hdatabase'⟩
  · rintro ⟨⟨huser, huser'⟩, hpassword, hdatabase, hdatabase'⟩
    exact ⟨⟨huser, fun password h => (hpassword password h).1, hdatabase⟩, huser',
      fun password h => (hpassword password h).2, hdatabase'⟩

/-- A user with an at-sign, and a password with every sign that may stand in one. -/
theorem connection_is_read_back_signs :
    let d := { DatabaseAccess.standard with
      user := "bank@corp"
      password := some "p:@ss 100%"
      host := "db-1.example.org"
      database := "accounts/eu" }
    d.url = none ∧ IsHostName d.host ∧ ConnectionParts.read? d.connection = some d.parts := by
  intro d
  have hhost : IsHostName d.host := ⟨by decide, List.forall_iff_forall_mem.mp (by decide)⟩
  have hverbatim {signs cs : List Char} (hsigns : signs.Forall (· ∉ cs))
      (hdecode : Text.Percent.decode cs = .ok cs) :
      (∀ c ∈ signs, c ∉ cs) ∧ ¬ Text.Percent.HasEscape cs :=
    ⟨List.forall_iff_forall_mem.mp hsigns, Text.Percent.decode_eq_self_iff.mp hdecode⟩
  refine ⟨rfl, hhost, (connection_is_read_back_iff rfl hhost).mpr ⟨?_, ?_, ?_⟩⟩
  · exact hverbatim (by decide) (by decide +kernel)
  · rintro password ⟨⟩
    exact hverbatim (by decide) (by decide +kernel)
  · exact hverbatim (by decide) (by decide +kernel)

/-- Settings that are accepted, with a slash in the password or a colon in the user: from the first
no connection is read, from the second another user and password. -/
theorem accepted_parts_are_misread :
    let slash := { DatabaseAccess.standard with password := some "p/w" }
    let colon := { DatabaseAccess.standard with user := "bank:eu" }
    (∀ d ∈ [slash, colon], d.url = none ∧ IsHostName d.host ∧
      { Settings.standard with storage.database := d }.check = .ok () ∧
      ConnectionParts.read? d.connection ≠ some d.parts) ∧
    ConnectionParts.read? slash.connection = none ∧
    ConnectionParts.read? colon.connection =
      some { colon.parts with user := "bank", password := some "eu" } := by
  intro slash colon
  have hslash : ConnectionParts.read? slash.connection = none := by decide +kernel
  have hcolon : ConnectionParts.read? colon.connection =
      some { colon.parts with user := "bank", password := some "eu" } := by
    decide +kernel
  have hhost : IsHostName "localhost" := ⟨by decide, List.forall_iff_forall_mem.mp (by decide)⟩
  refine ⟨List.forall_mem_cons.mpr ⟨?_, List.forall_mem_singleton.mpr ?_⟩, hslash, hcolon⟩
  · exact ⟨rfl, hhost, by decide +kernel, by simp [hslash]⟩
  · refine ⟨rfl, hhost, by decide +kernel, ?_⟩
    rw [hcolon]
    decide

end AccountRegistry
