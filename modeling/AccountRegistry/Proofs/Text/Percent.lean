import AccountRegistry.Proofs.Text.Utf8
import AccountRegistry.Text.Percent

/-! # Texts with and without escapes

A text of ASCII characters without a percent sign stands for itself. Any text is found again from
the one in which its reserved bytes are escaped.
-/

namespace AccountRegistry.Text

/-- A character that is written as itself in a path. -/
def IsUnescaped (c : Char) : Prop := c.toNat < 0x80 ∧ c ≠ '%'

namespace Utf8

theorem encode_cons_of_ascii {c : Char} (hc : c.toNat < 0x80) (cs : List Char) :
    encode (c :: cs) = c.toNat.toUInt8 :: encode cs := by
  rw [encode, List.flatMap_cons, encodeChar, if_pos hc]
  rfl

end Utf8

namespace Percent

theorem decodeBytes_cons {b : UInt8} (h : b ≠ 0x25) (rest : List UInt8) :
    decodeBytes (b :: rest) = b :: decodeBytes rest := by
  rw [decodeBytes.eq_def]
  exact if_neg h

theorem decodeBytes_escape {h l x y : UInt8} (hx : hexDigit? h = some x) (hy : hexDigit? l = some y)
    (rest : List UInt8) :
    decodeBytes (0x25 :: h :: l :: rest) = (x * 16 + y) :: decodeBytes rest := by
  rw [decodeBytes.eq_def]
  simp only [hx, hy, if_true]

theorem decodeBytes_of_ascii {cs : List Char} (h : ∀ c ∈ cs, IsUnescaped c) :
    decodeBytes (Utf8.encode cs) = Utf8.encode cs := by
  induction cs with
  | nil => rfl
  | cons c cs ih =>
    rw [List.forall_mem_cons] at h
    have hbyte : c.toNat.toUInt8 ≠ 0x25 := fun he => by
      have hcode := congrArg UInt8.toNat he
      rw [Utf8.toNat_toUInt8 (Nat.lt_trans h.1.1 (by decide))] at hcode
      exact h.1.2 (Char.toNat_inj.mp hcode)
    rw [Utf8.encode_cons_of_ascii h.1.1, decodeBytes_cons hbyte, ih h.2]

theorem decode_of_unescaped {cs : List Char} (h : ∀ c ∈ cs, IsUnescaped c) :
    decode cs = .ok cs := by
  rw [decode, decodeBytes_of_ascii h, Utf8.decode_encode]

/-! ## Escaping -/

theorem hexUpper_of_lt : ∀ d < 16, (hexUpper d).toNat < 0x80 ∧
    unreserved (hexUpper d).toNat.toUInt8 = true ∧
    hexDigit? (hexUpper d).toNat.toUInt8 = some d.toUInt8 := by
  decide

theorem unreserved_ascii {b : UInt8} (h : unreserved b = true) : b.toNat < 0x80 ∧ b ≠ 0x25 := by
  constructor
  · simp [unreserved, UInt8.le_iff_toNat_le, ← UInt8.toNat_inj] at h
    omega
  · rintro rfl
    cases h

theorem toNat_ofNat_byte {b : UInt8} (h : b.toNat < 0x80) :
    (Char.ofNat b.toNat).toNat = b.toNat := by
  rw [Char.ofNat, dif_pos (.inl (by omega))]
  rfl

/-- The digits of an escape give the byte back. -/
theorem byte_of_digits (b : UInt8) :
    (b.toNat / 16).toUInt8 * 16 + (b.toNat % 16).toUInt8 = b := by
  have hbyte := b.toNat_lt
  rw [← UInt8.toNat_inj, UInt8.toNat_add, UInt8.toNat_mul, Utf8.toNat_toUInt8 (by omega),
    Utf8.toNat_toUInt8 (by omega)]
  change (b.toNat / 16 * 16 % 256 + b.toNat % 16) % 256 = b.toNat
  omega

theorem decodeBytes_encodeByte (b : UInt8) (rest : List Char) :
    decodeBytes (Utf8.encode (encodeByte b ++ rest)) = b :: decodeBytes (Utf8.encode rest) := by
  unfold encodeByte
  split
  · next hb =>
    obtain ⟨hascii, hpercent⟩ := unreserved_ascii hb
    have hcode := toNat_ofNat_byte hascii
    rw [List.singleton_append, Utf8.encode_cons_of_ascii (by omega), hcode, Nat.toUInt8_eq,
      UInt8.ofNat_toNat, decodeBytes_cons hpercent]
  · have hbyte := b.toNat_lt
    obtain ⟨hhigh, -, hx⟩ := hexUpper_of_lt (b.toNat / 16) (by omega)
    obtain ⟨hlow, -, hy⟩ := hexUpper_of_lt (b.toNat % 16) (by omega)
    rw [List.cons_append, List.cons_append, List.singleton_append,
      Utf8.encode_cons_of_ascii (by decide), Utf8.encode_cons_of_ascii hhigh,
      Utf8.encode_cons_of_ascii hlow]
    change decodeBytes (0x25 :: _ :: _ :: _) = _
    rw [decodeBytes_escape hx hy, byte_of_digits]

theorem decodeBytes_flatMap_encodeByte (bytes : List UInt8) :
    decodeBytes (Utf8.encode (bytes.flatMap encodeByte)) = bytes := by
  induction bytes with
  | nil => rfl
  | cons b bytes ih => rw [List.flatMap_cons, decodeBytes_encodeByte, ih]

/-- Every text is found again behind its escapes. -/
theorem decode_encode (cs : List Char) : decode (encode cs) = .ok cs := by
  rw [decode, encode, decodeBytes_flatMap_encodeByte, Utf8.decode_encode]

example : encode "ä 5%".toList = "%C3%A4%205%25".toList := by decide +kernel

/-- An escaped text is made of unreserved characters and percent signs. -/
theorem of_mem_encode {cs : List Char} {c : Char} (h : c ∈ encode cs) :
    c.toNat < 0x80 ∧ (c = '%' ∨ unreserved c.toNat.toUInt8 = true) := by
  obtain ⟨b, -, hc⟩ := List.mem_flatMap.mp h
  unfold encodeByte at hc
  split at hc
  · next hb =>
    obtain ⟨hascii, -⟩ := unreserved_ascii hb
    rw [List.mem_singleton.mp hc, toNat_ofNat_byte hascii, Nat.toUInt8_eq, UInt8.ofNat_toNat]
    exact ⟨hascii, .inr hb⟩
  · have hbyte : b.toNat < 256 := b.toNat_lt
    obtain ⟨hhigh, hhigh', -⟩ := hexUpper_of_lt (b.toNat / 16) (by omega)
    obtain ⟨hlow, hlow', -⟩ := hexUpper_of_lt (b.toNat % 16) (by omega)
    simp only [List.mem_cons, List.not_mem_nil, or_false] at hc
    rcases hc with rfl | rfl | rfl
    · exact ⟨by decide, .inl rfl⟩
    · exact ⟨hhigh, .inr hhigh'⟩
    · exact ⟨hlow, .inr hlow'⟩

/-- A text in which nothing had to be escaped stands as it is. -/
theorem encode_eq_self {cs : List Char} (h : '%' ∉ encode cs) : encode cs = cs := by
  have hdecode : decode (encode cs) = .ok (encode cs) := by
    refine decode_of_unescaped fun c hc => ⟨(of_mem_encode hc).1, ?_⟩
    rintro rfl
    exact h hc
  exact Except.ok.inj (hdecode.symm.trans (decode_encode cs))

end Percent

end AccountRegistry.Text
