import AccountRegistry.Text.Utf8

/-! # Reading UTF-8

Every character is read from the bytes that it is written in, and every text from its bytes.
-/

namespace AccountRegistry.Text.Utf8

variable {n index : Nat} {rest : List UInt8}

theorem toNat_toUInt8 (h : n < 0x100) : n.toUInt8.toNat = n := Nat.mod_eq_of_lt h

/-! ## Leading bytes -/

theorem lead_one (h : n < 0x80) : lead n.toUInt8 = .char (Char.ofNat n) := by
  unfold lead
  rw [toNat_toUInt8 (by omega)]
  exact if_pos h

theorem lead_two (h : 0x80 ≤ n) (h' : n < 0x800) :
    lead (0xC0 + n / 0x40).toUInt8 = .pending ⟨1, 1, 0x80, 0xBF, n / 0x40⟩ := by
  unfold lead
  rw [toNat_toUInt8 (by omega)]
  dsimp only
  rw [if_neg (by omega), if_neg (by omega), if_pos (by omega), Nat.add_sub_cancel_left]

theorem lead_three (h : n < 0x10000) :
    lead (0xE0 + n / 0x1000).toUInt8 = .pending ⟨1, 2, if n < 0x1000 then 0xA0 else 0x80,
      if 0xD000 ≤ n ∧ n < 0xE000 then 0x9F else 0xBF, n / 0x1000⟩ := by
  have hlow : 0xE0 + n / 0x1000 = 0xE0 ↔ n < 0x1000 := by omega
  have hhigh : 0xE0 + n / 0x1000 = 0xED ↔ 0xD000 ≤ n ∧ n < 0xE000 := by omega
  unfold lead
  rw [toNat_toUInt8 (by omega)]
  dsimp only
  rw [if_neg (by omega), if_neg (by omega), if_neg (by omega), if_pos (by omega),
    Nat.add_sub_cancel_left]
  simp only [hlow, hhigh]

theorem lead_four (h : n < 0x110000) :
    lead (0xF0 + n / 0x40000).toUInt8 = .pending ⟨1, 3, if n < 0x40000 then 0x90 else 0x80,
      if 0x100000 ≤ n then 0x8F else 0xBF, n / 0x40000⟩ := by
  have hlow : 0xF0 + n / 0x40000 = 0xF0 ↔ n < 0x40000 := by omega
  have hhigh : 0xF0 + n / 0x40000 = 0xF4 ↔ 0x100000 ≤ n := by omega
  unfold lead
  rw [toNat_toUInt8 (by omega)]
  dsimp only
  rw [if_neg (by omega), if_neg (by omega), if_neg (by omega), if_neg (by omega),
    if_pos (by omega), Nat.add_sub_cancel_left]
  simp only [hlow, hhigh]

/-! ## Bytes that continue a sequence -/

theorem piecesFrom_pending {b : UInt8} {p : Pending} (h : lead b = .pending p) :
    piecesFrom index none (b :: rest) = piecesFrom (index + 1) (some p) rest := by
  rw [piecesFrom, h]

theorem piecesFrom_next {read owed low high code bits : Nat} (hbits : bits < 0x40)
    (hlow : low ≤ 0x80 + bits) (hhigh : 0x80 + bits ≤ high) :
    piecesFrom index (some ⟨read, owed + 2, low, high, code⟩) ((0x80 + bits).toUInt8 :: rest) =
      piecesFrom (index + 1) (some ⟨read + 1, owed + 1, 0x80, 0xBF, code * 0x40 + bits⟩) rest := by
  rw [piecesFrom, toNat_toUInt8 (by omega), if_pos ⟨hlow, hhigh⟩]
  dsimp only
  rw [if_neg (by omega), Nat.add_sub_cancel_left]
  rfl

theorem piecesFrom_last {read low high code bits : Nat} (hbits : bits < 0x40)
    (hlow : low ≤ 0x80 + bits) (hhigh : 0x80 + bits ≤ high) :
    piecesFrom index (some ⟨read, 1, low, high, code⟩) ((0x80 + bits).toUInt8 :: rest) =
      .char (Char.ofNat (code * 0x40 + bits)) :: piecesFrom (index + 1) none rest := by
  rw [piecesFrom, toNat_toUInt8 (by omega), if_pos ⟨hlow, hhigh⟩]
  dsimp only
  rw [if_pos (Nat.le_refl 1), Nat.add_sub_cancel_left]

/-! ## Characters -/

theorem piecesFrom_one (h : n < 0x80) :
    piecesFrom index none (n.toUInt8 :: rest) =
      .char (Char.ofNat n) :: piecesFrom (index + 1) none rest := by
  rw [piecesFrom, lead_one h]

theorem piecesFrom_two (h : 0x80 ≤ n) (h' : n < 0x800) :
    piecesFrom index none ((0xC0 + n / 0x40).toUInt8 :: (0x80 + n % 0x40).toUInt8 :: rest) =
      .char (Char.ofNat n) :: piecesFrom (index + 2) none rest := by
  have hlast : n % 0x40 < 0x40 := Nat.mod_lt n (by decide)
  rw [piecesFrom_pending (lead_two h h'), piecesFrom_last hlast (by omega) (by omega),
    Nat.div_add_mod' n 0x40]

theorem piecesFrom_three (h : 0x800 ≤ n) (h' : n < 0x10000) (hvalid : n < 0xD800 ∨ 0xDFFF < n) :
    piecesFrom index none ((0xE0 + n / 0x1000).toUInt8 :: (0x80 + n / 0x40 % 0x40).toUInt8 ::
        (0x80 + n % 0x40).toUInt8 :: rest) =
      .char (Char.ofNat n) :: piecesFrom (index + 3) none rest := by
  have hnext : n / 0x40 % 0x40 < 0x40 := Nat.mod_lt _ (by decide)
  have hlast : n % 0x40 < 0x40 := Nat.mod_lt n (by decide)
  have hlow : (if n < 0x1000 then 0xA0 else 0x80) ≤ 0x80 + n / 0x40 % 0x40 := by
    split <;> omega
  have hhigh : 0x80 + n / 0x40 % 0x40 ≤ if 0xD000 ≤ n ∧ n < 0xE000 then 0x9F else 0xBF := by
    split <;> omega
  have hcode : (n / 0x1000 * 0x40 + n / 0x40 % 0x40) * 0x40 + n % 0x40 = n := by omega
  rw [piecesFrom_pending (lead_three h'), piecesFrom_next hnext hlow hhigh,
    piecesFrom_last hlast (by omega) (by omega), hcode]

theorem piecesFrom_four (h : 0x10000 ≤ n) (h' : n < 0x110000) :
    piecesFrom index none ((0xF0 + n / 0x40000).toUInt8 :: (0x80 + n / 0x1000 % 0x40).toUInt8 ::
        (0x80 + n / 0x40 % 0x40).toUInt8 :: (0x80 + n % 0x40).toUInt8 :: rest) =
      .char (Char.ofNat n) :: piecesFrom (index + 4) none rest := by
  have hnext : n / 0x1000 % 0x40 < 0x40 := Nat.mod_lt _ (by decide)
  have hnext' : n / 0x40 % 0x40 < 0x40 := Nat.mod_lt _ (by decide)
  have hlast : n % 0x40 < 0x40 := Nat.mod_lt n (by decide)
  have hlow : (if n < 0x40000 then 0x90 else 0x80) ≤ 0x80 + n / 0x1000 % 0x40 := by
    split <;> omega
  have hhigh : 0x80 + n / 0x1000 % 0x40 ≤ if 0x100000 ≤ n then 0x8F else 0xBF := by
    split <;> omega
  have hcode : ((n / 0x40000 * 0x40 + n / 0x1000 % 0x40) * 0x40 + n / 0x40 % 0x40) * 0x40 +
      n % 0x40 = n := by omega
  rw [piecesFrom_pending (lead_four h'), piecesFrom_next hnext hlow hhigh,
    piecesFrom_next hnext' (by omega) (by omega), piecesFrom_last hlast (by omega) (by omega),
    hcode]

/-- A character is the first piece of its bytes, whatever follows. -/
theorem piecesFrom_encodeChar (c : Char) (index : Nat) (rest : List UInt8) :
    ∃ next,
      piecesFrom index none (encodeChar c ++ rest) = .char c :: piecesFrom next none rest := by
  have hvalid : c.toNat < 0xD800 ∨ 0xDFFF < c.toNat ∧ c.toNat < 0x110000 := c.valid
  have hchar := Char.ofNat_toNat c
  generalize hn : c.toNat = n at hvalid hchar
  subst hchar
  unfold encodeChar
  rw [hn]
  dsimp only
  split
  · next hone => exact ⟨_, piecesFrom_one hone⟩
  split
  · next hone htwo => exact ⟨_, piecesFrom_two (Nat.le_of_not_lt hone) htwo⟩
  split
  · next htwo hthree =>
    exact ⟨_, piecesFrom_three (Nat.le_of_not_lt htwo) hthree (hvalid.imp_right And.left)⟩
  · next hthree => exact ⟨_, piecesFrom_four (Nat.le_of_not_lt hthree) (by omega)⟩

/-! ## Texts -/

theorem piecesFrom_encode (cs : List Char) (index : Nat) :
    piecesFrom index none (encode cs) = cs.map Piece.char := by
  induction cs generalizing index with
  | nil => rfl
  | cons c cs ih =>
    obtain ⟨next, hnext⟩ := piecesFrom_encodeChar c index (encode cs)
    rw [encode, List.flatMap_cons, ← encode, hnext, ih, List.map_cons]

theorem ofPieces_chars (cs : List Char) : ofPieces (cs.map Piece.char) = .ok cs := by
  induction cs with
  | nil => rfl
  | cons c cs ih =>
    rw [List.map_cons, ofPieces, ih]
    rfl

/-- A text is read from its bytes. -/
theorem decode_encode (cs : List Char) : decode (encode cs) = .ok cs := by
  rw [decode, pieces, piecesFrom_encode, ofPieces_chars]

end AccountRegistry.Text.Utf8
