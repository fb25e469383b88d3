import AccountRegistry.Proofs.Result
import AccountRegistry.Proofs.Text.Percent
import Mathlib.Data.List.Basic

/-! # Texts that hold escapes

An escape of three characters stands for one byte, so reading the escapes of a text never makes it
longer, and a text stands for itself exactly if it holds none.
-/

namespace AccountRegistry.Text

/-! ## Characters counted by their first bytes -/

namespace Utf8

/-- A byte with which a character can begin. -/
def isFirst (b : UInt8) : Bool := b.toNat < 0x80 || 0xC0 ≤ b.toNat

theorem toNat_lt (c : Char) : c.toNat < 0x110000 := by
  have hvalid : c.toNat < 0xD800 ∨ 0xDFFF < c.toNat ∧ c.toNat < 0x110000 := c.valid
  omega

theorem countP_encodeChar (c : Char) : (encodeChar c).countP isFirst = 1 := by
  have hvalid := toNat_lt c
  have hnext (n : Nat) : ¬ isFirst (0x80 + n % 0x40).toUInt8 = true := by
    rw [isFirst, toNat_toUInt8 (by omega), Bool.or_eq_true, decide_eq_true_eq, decide_eq_true_eq]
    omega
  have hfirst {n : Nat} (h : n < 0x80 ∨ 0xC0 ≤ n) (h' : n < 0x100) :
      isFirst n.toUInt8 = true := by
    rw [isFirst, toNat_toUInt8 h', Bool.or_eq_true, decide_eq_true_eq, decide_eq_true_eq]
    exact h
  unfold encodeChar
  dsimp only
  split_ifs
  · rw [List.countP_cons_of_pos (hfirst (by omega) (by omega)), List.countP_nil]
  · rw [List.countP_cons_of_pos (hfirst (by omega) (by omega)), List.countP_cons_of_neg (hnext _),
      List.countP_nil]
  · rw [List.countP_cons_of_pos (hfirst (by omega) (by omega)), List.countP_cons_of_neg (hnext _),
      List.countP_cons_of_neg (hnext _), List.countP_nil]
  · rw [List.countP_cons_of_pos (hfirst (by omega) (by omega)), List.countP_cons_of_neg (hnext _),
      List.countP_cons_of_neg (hnext _), List.countP_cons_of_neg (hnext _), List.countP_nil]

theorem isFirst_of_lead {b : UInt8} (h : lead b ≠ .none) : isFirst b = true := by
  unfold lead at h
  rw [isFirst, Bool.or_eq_true, decide_eq_true_eq, decide_eq_true_eq]
  dsimp only at h
  split_ifs at h <;> first | omega | exact absurd rfl h

/-- Every character that is read begins with a byte of its own; that of a sequence under way has
been counted before. -/
theorem length_le_of_ofPieces {index : Nat} {state : Option Pending} {bytes : List UInt8}
    {cs : List Char} (h : ofPieces (piecesFrom index state bytes) = .ok cs) :
    cs.length ≤ bytes.countP isFirst + if state.isSome then 1 else 0 := by
  induction bytes generalizing index state cs with
  | nil =>
    cases state with
    | none =>
      cases h
      exact Nat.zero_le _
    | some p => cases h
  | cons b bytes ih =>
    cases state with
    | none =>
      rw [piecesFrom] at h
      split at h
      · next c hlead =>
        obtain ⟨cs, hcs, rfl⟩ := map_eq_ok_iff.mp h
        rw [List.countP_cons_of_pos (isFirst_of_lead (by simp [hlead]))]
        exact Nat.succ_le_succ (ih hcs)
      · next p hlead =>
        rw [List.countP_cons_of_pos (isFirst_of_lead (by simp [hlead]))]
        exact ih h
      · cases h
    | some p =>
      rw [piecesFrom] at h
      split at h
      · dsimp only at h
        have hrest : bytes.countP isFirst ≤ (b :: bytes).countP isFirst :=
          (List.sublist_cons_self b bytes).countP_le
        split at h
        · obtain ⟨cs, hcs, rfl⟩ := map_eq_ok_iff.mp h
          exact Nat.succ_le_succ (Nat.le_trans (ih hcs) hrest)
        · exact Nat.le_trans (ih h) (Nat.succ_le_succ hrest)
      · cases h

theorem length_le_of_decode {bytes : List UInt8} {cs : List Char} (h : decode bytes = .ok cs) :
    cs.length ≤ bytes.countP isFirst := length_le_of_ofPieces h

/-- The bytes of a character beyond ASCII are none of ASCII. -/
theorem le_toNat_of_mem_encodeChar {c : Char} (hc : 0x80 ≤ c.toNat) :
    ∀ b ∈ encodeChar c, 0x80 ≤ b.toNat := by
  have hvalid := toNat_lt c
  have hbyte {n : Nat} (h : 0x80 ≤ n) (h' : n < 0x100) : 0x80 ≤ n.toUInt8.toNat := by
    rwa [toNat_toUInt8 h']
  unfold encodeChar
  dsimp only
  split_ifs
  · omega
  all_goals simp only [List.forall_mem_cons, List.not_mem_nil, false_implies, implies_true, and_true]
  · exact ⟨hbyte (by omega) (by omega), hbyte (by omega) (by omega)⟩
  · exact ⟨hbyte (by omega) (by omega), hbyte (by omega) (by omega), hbyte (by omega) (by omega)⟩
  · exact ⟨hbyte (by omega) (by omega), hbyte (by omega) (by omega), hbyte (by omega) (by omega),
      hbyte (by omega) (by omega)⟩

end Utf8

namespace Percent

/-! ## Escapes -/

def IsHexDigit (c : Char) : Prop := c ∈ "0123456789abcdefABCDEF".toList

/-- A percent sign with two hexadecimal digits behind it. -/
def BeginsEscape (cs : List Char) : Prop :=
  ∃ high low rest, cs = '%' :: high :: low :: rest ∧ IsHexDigit high ∧ IsHexDigit low

/-- A text holds an escape somewhere. -/
def HasEscape (cs : List Char) : Prop := ∃ before after, cs = before ++ after ∧ BeginsEscape after

theorem hasEscape_cons_iff {c : Char} {cs : List Char} :
    HasEscape (c :: cs) ↔ BeginsEscape (c :: cs) ∨ HasEscape cs := by
  constructor
  · rintro ⟨before, after, hcs, hafter⟩
    cases before with
    | nil => exact .inl (hcs ▸ hafter)
    | cons d before => exact .inr ⟨before, after, (List.cons.inj hcs).2, hafter⟩
  · rintro (h | ⟨before, after, rfl, hafter⟩)
    · exact ⟨[], _, rfl, h⟩
    · exact ⟨c :: before, after, rfl, hafter⟩

theorem hexDigit?_of_isHexDigit : ∀ c ∈ "0123456789abcdefABCDEF".toList,
    c.toNat < 0x80 ∧ (hexDigit? c.toNat.toUInt8).isSome = true :=
  List.forall_iff_forall_mem.mp (by decide)

theorem isHexDigit_of_hexDigit? : ∀ n < 0x80, (hexDigit? n.toUInt8).isSome = true →
    Char.ofNat n ∈ "0123456789abcdefABCDEF".toList := by
  decide

theorem lt_of_hexDigit? {b x : UInt8} (h : hexDigit? b = some x) : b.toNat < 0x80 := by
  by_contra hb
  have hb : 0x80 ≤ b.toNat := Nat.le_of_not_lt hb
  unfold hexDigit? at h
  simp only [Bool.and_eq_true, decide_eq_true_eq, UInt8.le_iff_toNat_le] at h
  change (if 0x30 ≤ b.toNat ∧ b.toNat ≤ 0x39 then _ else if 0x41 ≤ b.toNat ∧ b.toNat ≤ 0x46 then _
    else if 0x61 ≤ b.toNat ∧ b.toNat ≤ 0x66 then _ else none) = _ at h
  rw [if_neg (by omega), if_neg (by omega), if_neg (by omega)] at h
  cases h

/-- A byte that is a digit is the first character. -/
theorem exists_cons_of_hexDigit? {cs : List Char} {b x : UInt8} {bytes : List UInt8}
    (hcs : Utf8.encode cs = b :: bytes) (h : hexDigit? b = some x) :
    ∃ c rest, cs = c :: rest ∧ IsHexDigit c ∧ Utf8.encode rest = bytes := by
  cases cs with
  | nil => cases hcs
  | cons c rest =>
    by_cases hc : c.toNat < 0x80
    · rw [Utf8.encode_cons_of_ascii hc, List.cons.injEq] at hcs
      refine ⟨c, rest, rfl, ?_, hcs.2⟩
      have hdigit := isHexDigit_of_hexDigit? c.toNat hc (by rw [hcs.1, h]; rfl)
      rwa [Char.ofNat_toNat] at hdigit
    · have hne : Utf8.encodeChar c ≠ [] := fun hnil => by
        have hcount := Utf8.countP_encodeChar c
        rw [hnil] at hcount
        cases hcount
      obtain ⟨first, more, hfirst⟩ := List.exists_cons_of_ne_nil hne
      have hb := Utf8.le_toNat_of_mem_encodeChar (Nat.le_of_not_lt hc) first
        (hfirst ▸ List.mem_cons_self)
      rw [Utf8.encode, List.flatMap_cons, hfirst, List.cons_append, List.cons.injEq] at hcs
      rw [hcs.1] at hb
      exact absurd (lt_of_hexDigit? h) (Nat.not_lt.mpr hb)

theorem decodeBytes_singleton (b : UInt8) : decodeBytes [b] = [b] := by
  rw [decodeBytes.eq_def]
  dsimp only
  split <;> rfl

theorem decodeBytes_append_of_not_mem {bytes : List UInt8} (h : 0x25 ∉ bytes)
    (rest : List UInt8) : decodeBytes (bytes ++ rest) = bytes ++ decodeBytes rest := by
  induction bytes with
  | nil => rfl
  | cons b bytes ih =>
    rw [List.mem_cons, not_or] at h
    rw [List.cons_append, decodeBytes_cons fun he => h.1 he.symm, ih h.2, List.cons_append]

/-- Where no escape begins, a character is read as itself. -/
theorem decodeBytes_encode_cons {c : Char} {cs : List Char} (h : ¬ BeginsEscape (c :: cs)) :
    decodeBytes (Utf8.encode (c :: cs)) = Utf8.encodeChar c ++ decodeBytes (Utf8.encode cs) := by
  by_cases hc : c = '%'
  · subst hc
    have hsigns : Utf8.encode ('%' :: cs) = 0x25 :: Utf8.encode cs := rfl
    have hpercent : Utf8.encodeChar '%' = [0x25] := rfl
    rw [hsigns, hpercent, List.singleton_append, decodeBytes.eq_def]
    dsimp only
    rw [if_pos rfl]
    split
    · next high low bytes hcs =>
      split
      · next x y hx hy =>
        obtain ⟨d, rest, rfl, hd, hrest⟩ := exists_cons_of_hexDigit? hcs hx
        obtain ⟨e, rest, rfl, he, -⟩ := exists_cons_of_hexDigit? hrest hy
        exact absurd ⟨d, e, rest, rfl, hd, he⟩ h
      · rw [hcs]
    · next hshort =>
      -- Fewer than two bytes are left, which hold no escape either.
      rcases hrest : Utf8.encode cs with _ | ⟨high, _ | ⟨low, bytes⟩⟩
      · rfl
      · rw [decodeBytes_singleton]
      · exact absurd hrest (hshort high low bytes)
  · rw [Utf8.encode, List.flatMap_cons, ← Utf8.encode]
    refine decodeBytes_append_of_not_mem (fun hmem => ?_) _
    by_cases hascii : c.toNat < 0x80
    · rw [Utf8.encodeChar, if_pos hascii, List.mem_singleton] at hmem
      have hcode := congrArg UInt8.toNat hmem
      rw [Utf8.toNat_toUInt8 (Nat.lt_trans hascii (by decide))] at hcode
      exact hc (Char.toNat_inj.mp hcode.symm)
    · exact absurd (Utf8.le_toNat_of_mem_encodeChar (Nat.le_of_not_lt hascii) _ hmem) (by decide)

/-- An escape is read as one byte. -/
theorem BeginsEscape.exists_decodeBytes {cs : List Char} (h : BeginsEscape cs) :
    ∃ b rest, cs.length = rest.length + 3 ∧
      decodeBytes (Utf8.encode cs) = b :: decodeBytes (Utf8.encode rest) := by
  obtain ⟨high, low, rest, rfl, hhigh, hlow⟩ := h
  obtain ⟨hhigh, hx⟩ := hexDigit?_of_isHexDigit high hhigh
  obtain ⟨hlow, hy⟩ := hexDigit?_of_isHexDigit low hlow
  obtain ⟨x, hx⟩ := Option.isSome_iff_exists.mp hx
  obtain ⟨y, hy⟩ := Option.isSome_iff_exists.mp hy
  refine ⟨x * 16 + y, rest, rfl, ?_⟩
  rw [Utf8.encode_cons_of_ascii (by decide), Utf8.encode_cons_of_ascii hhigh,
    Utf8.encode_cons_of_ascii hlow]
  exact decodeBytes_escape hx hy _

theorem countP_decodeBytes_le (cs : List Char) :
    (decodeBytes (Utf8.encode cs)).countP Utf8.isFirst ≤ cs.length := by
  induction hlength : cs.length using Nat.strongRecOn generalizing cs with
  | ind n ih =>
    cases cs with
    | nil => exact Nat.zero_le _
    | cons c cs =>
      by_cases h : BeginsEscape (c :: cs)
      · obtain ⟨b, rest, hrest, hdecode⟩ := h.exists_decodeBytes
        have hle := ih rest.length (by omega) rest rfl
        rw [hdecode, List.countP_cons]
        split <;> omega
      · have hle := ih cs.length (by simp [← hlength]) cs rfl
        rw [decodeBytes_encode_cons h, List.countP_append, Utf8.countP_encodeChar]
        rw [List.length_cons] at hlength
        omega

theorem countP_decodeBytes_lt {cs : List Char} (h : HasEscape cs) :
    (decodeBytes (Utf8.encode cs)).countP Utf8.isFirst < cs.length := by
  induction cs with
  | nil =>
    obtain ⟨before, after, hcs, high, low, rest, rfl, -⟩ := h
    simp at hcs
  | cons c cs ih =>
    by_cases hbegins : BeginsEscape (c :: cs)
    · obtain ⟨b, rest, hrest, hdecode⟩ := hbegins.exists_decodeBytes
      have hle := countP_decodeBytes_le rest
      rw [hdecode, List.countP_cons]
      split <;> omega
    · have hlt := ih ((hasEscape_cons_iff.mp h).resolve_left hbegins)
      rw [decodeBytes_encode_cons hbegins, List.countP_append, Utf8.countP_encodeChar,
        List.length_cons]
      omega

theorem decodeBytes_of_not_hasEscape {cs : List Char} (h : ¬ HasEscape cs) :
    decodeBytes (Utf8.encode cs) = Utf8.encode cs := by
  induction cs with
  | nil => rfl
  | cons c cs ih =>
    rw [hasEscape_cons_iff, not_or] at h
    rw [decodeBytes_encode_cons h.1, ih h.2]
    rfl

/-- What a text stands for is not longer. -/
theorem length_le_of_decode {cs read : List Char} (h : decode cs = .ok read) :
    read.length ≤ cs.length :=
  Nat.le_trans (Utf8.length_le_of_decode h) (countP_decodeBytes_le cs)

/-- A text stands for itself exactly if it holds no escape. -/
theorem decode_eq_self_iff {cs : List Char} : decode cs = .ok cs ↔ ¬ HasEscape cs := by
  constructor
  · intro h hescape
    exact absurd (Utf8.length_le_of_decode h) (Nat.not_le.mpr (countP_decodeBytes_lt hescape))
  · intro h
    rw [decode, decodeBytes_of_not_hasEscape h, Utf8.decode_encode]

end Percent

end AccountRegistry.Text
