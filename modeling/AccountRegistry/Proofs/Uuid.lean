import AccountRegistry.Proofs.Text.LowerCase
import AccountRegistry.Uuid
import Mathlib.Algebra.Group.Nat.Defs
import Mathlib.Data.List.Induction
import Mathlib.Data.List.TakeDrop

/-! # Identifiers and their texts

Hexadecimal digits stand for the number that they were written for, so that every identifier is read
back from its text. It is read in either letter case, with or without hyphens, in braces or as a
urn, and from nothing else. Texts are in the order of the numbers.
-/

namespace AccountRegistry.Uuid

/-! ## Hexadecimal digits -/

theorem hexDigit_of_lt : ∀ d < 16, isHex d.digitChar = true ∧ hexValue d.digitChar = d := by
  decide

theorem ofHex_append_singleton (ds : List Char) (d : Char) :
    ofHex (ds ++ [d]) = ofHex ds * 16 + hexValue d := by
  unfold ofHex
  rw [List.foldl_append]
  rfl

/-- A number is written by its hexadecimal digits. -/
theorem ofHex_toDigits (n : Nat) :
    ofHex (Nat.toDigits 16 n) = n ∧ ∀ c ∈ Nat.toDigits 16 n, isHex c = true := by
  induction n using Nat.strongRecOn with
  | ind n ih =>
    rcases Nat.lt_or_ge n 16 with hlt | hge
    · obtain ⟨hhex, hvalue⟩ := hexDigit_of_lt n hlt
      rw [Nat.toDigits_of_lt_base hlt, List.forall_mem_singleton]
      exact ⟨by simp [ofHex, hvalue], hhex⟩
    · obtain ⟨hrest, hall⟩ := ih (n / 16) (by omega)
      obtain ⟨hhex, hvalue⟩ := hexDigit_of_lt (n % 16) (Nat.mod_lt n (by decide))
      rw [Nat.toDigits_of_base_le (by decide) hge, List.forall_mem_append,
        List.forall_mem_singleton, ofHex_append_singleton, hrest, hvalue]
      exact ⟨Nat.div_add_mod' n 16, hall, hhex⟩

theorem length_hexDigits (count n : Nat) : (hexDigits count n).length = count := by
  induction count generalizing n with
  | zero => rfl
  | succ count ih => rw [hexDigits, List.length_append, ih, List.length_singleton]

theorem exists_digit_of_mem {count n : Nat} {c : Char} (hc : c ∈ hexDigits count n) :
    ∃ d < 16, Nat.digitChar d = c := by
  induction count generalizing n with
  | zero => cases hc
  | succ count ih =>
    rw [hexDigits, List.mem_append, List.mem_singleton] at hc
    rcases hc with hc | rfl
    · exact ih hc
    · exact ⟨n % 16, Nat.mod_lt n (by decide), rfl⟩

theorem hyphen_not_mem_hexDigits (count n : Nat) : '-' ∉ hexDigits count n := fun h => by
  obtain ⟨d, hd, hhyphen⟩ := exists_digit_of_mem h
  exact absurd (hhyphen ▸ (hexDigit_of_lt d hd).1) (by decide)

theorem ofHex_hexDigits (count n : Nat) : ofHex (hexDigits count n) = n % 16 ^ count := by
  induction count generalizing n with
  | zero => exact (Nat.mod_one n).symm
  | succ count ih =>
    rw [hexDigits, ofHex_append_singleton, ih, (hexDigit_of_lt _ (Nat.mod_lt n (by decide))).2,
      Nat.pow_succ', Nat.mod_mul, Nat.add_comm, Nat.mul_comm]

/-! ## Letter case -/

theorem isHex_toLower (c : Char) : isHex c.toLower = isHex c := by
  by_cases hascii : c.toNat < 0x80
  · have hall : ∀ n < 0x80, isHex (Char.ofNat n).toLower = isHex (Char.ofNat n) := by decide
    rw [← Char.ofNat_toNat c]
    exact hall _ hascii
  · rw [Text.toLower_of_le (Nat.le_of_not_lt hascii)]

theorem lt_of_isHex {c : Char} (h : isHex c = true) : c.toNat < 0x80 := by
  simp only [isHex, Char.isDigit, Bool.or_eq_true, Bool.and_eq_true, decide_eq_true_eq] at h
  rcases h with (h | h) | h <;> exact Nat.lt_of_le_of_lt h.2 (by decide)

/-- A digit in lower case is the one that its value is written as. -/
theorem toLower_of_isHex {c : Char} (h : isHex c = true) :
    hexValue c < 16 ∧ c.toLower = (hexValue c).digitChar := by
  have hall : ∀ n < 0x80, isHex (Char.ofNat n) = true → hexValue (Char.ofNat n) < 16 ∧
      (Char.ofNat n).toLower = (hexValue (Char.ofNat n)).digitChar := by
    decide
  have hc := hall c.toNat (lt_of_isHex h)
  rw [Char.ofNat_toNat] at hc
  exact hc h

theorem hexDigits_ofHex {ds : List Char} (h : ∀ c ∈ ds, isHex c = true) :
    hexDigits ds.length (ofHex ds) = ds.map Char.toLower := by
  induction ds using List.reverseRecOn with
  | nil => rfl
  | append_singleton ds d ih =>
    rw [List.forall_mem_append, List.forall_mem_singleton] at h
    obtain ⟨hvalue, hlower⟩ := toLower_of_isHex h.2
    rw [List.length_append, List.length_singleton, hexDigits, ofHex_append_singleton,
      List.map_append, ← ih h.1, List.map_singleton, hlower, Nat.add_comm (ofHex ds * 16),
      Nat.add_mul_div_right _ _ (by decide), Nat.div_eq_of_lt hvalue, Nat.zero_add,
      Nat.add_mul_mod_self_right, Nat.mod_eq_of_lt hvalue]

theorem ofHex_lt {ds : List Char} (h : ∀ c ∈ ds, isHex c = true) : ofHex ds < 16 ^ ds.length := by
  induction ds using List.reverseRecOn with
  | nil => decide
  | append_singleton ds d ih =>
    rw [List.forall_mem_append, List.forall_mem_singleton] at h
    have hrest := ih h.1
    have hvalue := (toLower_of_isHex h.2).1
    rw [List.length_append, List.length_singleton, ofHex_append_singleton, Nat.pow_succ]
    omega

theorem isHex_of_map_toLower {ds : List Char} {count n : Nat}
    (h : ds.map Char.toLower = hexDigits count n) : ∀ c ∈ ds, isHex c = true := by
  intro c hc
  obtain ⟨d, hd, hdigit⟩ := exists_digit_of_mem (h ▸ List.mem_map_of_mem hc)
  rw [← isHex_toLower, ← hdigit]
  exact (hexDigit_of_lt d hd).1

theorem map_toLower_eq_hexDigits_iff {ds : List Char} {count n : Nat} (hn : n < 16 ^ count) :
    ds.map Char.toLower = hexDigits count n ↔
      ds.length = count ∧ (∀ c ∈ ds, isHex c = true) ∧ ofHex ds = n := by
  constructor
  · intro h
    have hlength : ds.length = count := by
      rw [← List.length_map Char.toLower, h, length_hexDigits]
    have hhex := isHex_of_map_toLower h
    refine ⟨hlength, hhex, ?_⟩
    have hbound := ofHex_lt hhex
    have hvalue := congrArg ofHex ((hexDigits_ofHex hhex).trans h)
    rw [hlength] at hbound
    rwa [hlength, ofHex_hexDigits, ofHex_hexDigits, Nat.mod_eq_of_lt hn, Nat.mod_eq_of_lt hbound]
      at hvalue
  · rintro ⟨rfl, hhex, rfl⟩
    exact (hexDigits_ofHex hhex).symm

/-! ## Groups -/

/-- Four digits and what follows them. -/
theorem group_append_drop (ds : List Char) (k : Nat) :
    (ds.drop k).take 4 ++ ds.drop (k + 4) = ds.drop k := by
  rw [← List.drop_drop, List.take_append_drop]

/-- The groups are made of the digits, in their order. -/
theorem filter_grouped {ds : List Char} (h : '-' ∉ ds) : (grouped ds).filter (· != '-') = ds := by
  have hpart {part : List Char} (hsub : ∀ c ∈ part, c ∈ ds) : part.filter (· != '-') = part :=
    List.filter_eq_self.mpr fun c hc => bne_iff_ne.mpr fun he => h (he ▸ hsub c hc)
  have hgroup (k : Nat) : ((ds.drop k).take 4).filter (· != '-') = (ds.drop k).take 4 :=
    hpart fun _ hc => List.mem_of_mem_drop (List.mem_of_mem_take hc)
  unfold grouped
  simp only [List.filter_append, List.filter_cons, bne_self_eq_false, Bool.false_eq_true, if_false]
  rw [hpart fun _ => List.mem_of_mem_take, hpart fun _ => List.mem_of_mem_drop, hgroup, hgroup,
    hgroup, List.append_assoc, group_append_drop, List.append_assoc, group_append_drop,
    List.append_assoc, group_append_drop, List.take_append_drop]

theorem length_grouped {ds : List Char} (h : ds.length = 32) : (grouped ds).length = 36 := by
  unfold grouped
  simp [h]

theorem chars_ne_nil (u : Uuid) : u.chars ≠ [] := fun h => by
  have hlength := length_grouped (length_hexDigits 32 u.toNat)
  rw [← chars, h] at hlength
  cases hlength

theorem exists_digit_of_mem_chars {u : Uuid} {c : Char} (hc : c ∈ u.chars) (hhyphen : c ≠ '-') :
    ∃ d < 16, Nat.digitChar d = c := by
  have hmem : c ∈ u.chars.filter (· != '-') := List.mem_filter.mpr ⟨hc, bne_iff_ne.mpr hhyphen⟩
  rw [chars, filter_grouped (hyphen_not_mem_hexDigits 32 _)] at hmem
  exact exists_digit_of_mem hmem

theorem map_toLower_eq_append_hyphen {cs as bs : List Char}
    (h : cs.map Char.toLower = as ++ '-' :: bs) :
    ∃ xs ys, cs = xs ++ '-' :: ys ∧ xs.map Char.toLower = as ∧ ys.map Char.toLower = bs := by
  obtain ⟨xs, rest, rfl, hxs, hrest⟩ := List.map_eq_append_iff.mp h
  obtain ⟨c, ys, rfl, hc, hys⟩ := List.map_eq_cons_iff.mp hrest
  exact ⟨xs, ys, by rw [Text.eq_of_toLower_eq hc (by decide)], hxs, hys⟩

theorem grouped_append {a b c d e : List Char} (ha : a.length = 8) (hb : b.length = 4)
    (hc : c.length = 4) (hd : d.length = 4) :
    grouped (a ++ (b ++ (c ++ (d ++ e)))) =
      a ++ '-' :: (b ++ '-' :: (c ++ '-' :: (d ++ '-' :: e))) := by
  obtain ⟨ds, hds⟩ : ∃ ds, a ++ (b ++ (c ++ (d ++ e))) = ds := ⟨_, rfl⟩
  have hnext {k : Nat} {group rest : List Char} (h : ds.drop k = group ++ rest)
      (hgroup : group.length = 4) : ds.drop (k + 4) = rest := by
    rw [← List.drop_drop, h, List.drop_left' hgroup]
  have hb' : ds.drop 8 = b ++ (c ++ (d ++ e)) := by rw [← hds, List.drop_left' ha]
  have hc' : ds.drop 12 = c ++ (d ++ e) := hnext hb' hb
  have hd' : ds.drop 16 = d ++ e := hnext hc' hc
  have he' : ds.drop 20 = e := hnext hd' hd
  rw [hds, grouped, hb', hc', hd', he', ← hds, List.take_left' ha, List.take_left' hb,
    List.take_left' hc, List.take_left' hd]
  simp only [List.append_assoc, List.cons_append]

/-- Small and capital letters stand in the same groups. -/
theorem map_toLower_eq_grouped_iff {cs es : List Char} (h : es.length = 32) :
    cs.map Char.toLower = grouped es ↔ ∃ ds, cs = grouped ds ∧ ds.map Char.toLower = es := by
  constructor
  · intro hcs
    unfold grouped at hcs
    simp only [List.append_assoc, List.cons_append] at hcs
    obtain ⟨a, rest, rfl, ha, hcs⟩ := map_toLower_eq_append_hyphen hcs
    obtain ⟨b, rest, rfl, hb, hcs⟩ := map_toLower_eq_append_hyphen hcs
    obtain ⟨c, rest, rfl, hc, hcs⟩ := map_toLower_eq_append_hyphen hcs
    obtain ⟨d, e, rfl, hd, he⟩ := map_toLower_eq_append_hyphen hcs
    have hlength {xs ys : List Char} (h : xs.map Char.toLower = ys) : xs.length = ys.length := by
      rw [← h, List.length_map]
    refine ⟨a ++ (b ++ (c ++ (d ++ e))), (grouped_append ?_ ?_ ?_ ?_).symm, ?_⟩
    · rw [hlength ha]; simp [h]
    · rw [hlength hb]; simp [h]
    · rw [hlength hc]; simp [h]
    · rw [hlength hd]; simp [h]
    · simp only [List.map_append, ha, hb, hc, hd, he]
      rw [group_append_drop es 16, group_append_drop es 12, group_append_drop es 8,
        List.take_append_drop]
  · rintro ⟨ds, rfl, rfl⟩
    simp [grouped, List.map_take, List.map_drop]

/-! ## Spellings -/

/-- The texts in lower case that an identifier is read from. -/
def spellings (u : Uuid) : List (List Char) :=
  [hexDigits 32 u.toNat, u.chars, '\x7b' :: u.chars ++ ['\x7d'], urnStart ++ u.chars]

example : (ofNat 1).spellings.map String.ofList =
    ["00000000000000000000000000000001", "00000000-0000-0000-0000-000000000001",
      "\x7b00000000-0000-0000-0000-000000000001\x7d",
      "urn:uuid:00000000-0000-0000-0000-000000000001"] := by
  decide +kernel

theorem ungrouped?_eq_some_iff {cs ds : List Char} : ungrouped? cs = some ds ↔
    cs = grouped ds ∧ ds.length = 32 ∧ ∀ c ∈ ds, isHex c = true := by
  unfold ungrouped?
  dsimp only
  rw [Option.ite_none_right_eq_some, Option.some.injEq, Bool.and_eq_true, Bool.and_eq_true,
    decide_eq_true_eq, List.all_eq_true, beq_iff_eq]
  constructor
  · rintro ⟨⟨⟨hlength, hhex⟩, hgroups⟩, rfl⟩
    exact ⟨hgroups.symm, hlength, hhex⟩
  · rintro ⟨rfl, hlength, hhex⟩
    rw [filter_grouped fun h => absurd (hhex _ h) (by decide)]
    exact ⟨⟨⟨hlength, hhex⟩, rfl⟩, rfl⟩

/-- A text in braces or behind the start of a urn is what it is around. -/
theorem eq_of_unwrapped? {cs inner : List Char} {start : Nat}
    (h : unwrapped? cs = some (inner, start)) :
    cs = '\x7b' :: inner ++ ['\x7d'] ∨
      ∃ scheme, cs = scheme ++ inner ∧ scheme.map Char.toLower = urnStart := by
  unfold unwrapped? at h
  split at h
  · next rest =>
    rw [Option.ite_none_right_eq_some, beq_iff_eq] at h
    obtain ⟨hlast, h⟩ := h
    cases h
    refine .inl ?_
    rw [List.cons_append, List.dropLast_append_getLast? _ hlast]
  · rw [Option.ite_none_right_eq_some] at h
    obtain ⟨hscheme, h⟩ := h
    cases h
    exact .inr ⟨_, (List.take_append_drop 9 cs).symm, hscheme⟩

theorem unwrapped?_braces (inner : List Char) :
    unwrapped? ('\x7b' :: inner ++ ['\x7d']) = some (inner, 1) := by
  simp [unwrapped?]

theorem unwrapped?_urn {scheme : List Char} (h : scheme.map Char.toLower = urnStart)
    (inner : List Char) : unwrapped? (scheme ++ inner) = some (inner, 9) := by
  have hlength : scheme.length = 9 := by
    rw [← List.length_map Char.toLower, h]
    rfl
  obtain ⟨c, rest, rfl⟩ := List.exists_cons_of_length_pos (l := scheme) (by omega)
  have hfirst : c ≠ '\x7b' := by
    rintro rfl
    cases h
  unfold unwrapped?
  split
  · next heq => exact absurd (List.cons.inj heq).1 hfirst
  · rw [List.take_left' hlength, List.drop_left' hlength]
    exact if_pos h

/-- A text that begins with a digit is not wrapped. -/
theorem unwrapped?_eq_none {c : Char} (hc : isHex c = true) (rest : List Char) :
    unwrapped? (c :: rest) = none := by
  unfold unwrapped?
  split
  · next heq =>
    obtain ⟨rfl, -⟩ := List.cons.inj heq
    cases hc
  · refine if_neg fun h => ?_
    have hu := isHex_toLower c
    rw [(List.cons.inj h).1, hc] at hu
    cases hu

theorem digits?_eq_some_iff {cs ds : List Char} : digits? cs = some ds ↔
    (ds.length = 32 ∧ ∀ c ∈ ds, isHex c = true) ∧
      (cs = ds ∨ cs = grouped ds ∨ cs = '\x7b' :: grouped ds ++ ['\x7d'] ∨
        ∃ scheme, cs = scheme ++ grouped ds ∧ scheme.map Char.toLower = urnStart) := by
  unfold digits?
  constructor
  · intro h
    split at h
    · next hsimple =>
      cases h
      rw [Bool.and_eq_true, decide_eq_true_eq, List.all_eq_true] at hsimple
      exact ⟨hsimple, .inl rfl⟩
    · obtain ⟨hinner, hds⟩ := ungrouped?_eq_some_iff.mp h
      refine ⟨hds, .inr ?_⟩
      cases hwrapped : unwrapped? cs with
      | none => exact .inl (by rwa [hwrapped] at hinner)
      | some p =>
        rw [hwrapped, Option.elim_some] at hinner
        exact .inr (hinner ▸ eq_of_unwrapped? hwrapped)
  · rintro ⟨hds, h⟩
    have hread : ungrouped? (grouped ds) = some ds := ungrouped?_eq_some_iff.mpr ⟨rfl, hds⟩
    have hgrouped := length_grouped hds.1
    have hgroups {cs : List Char} (hcs : 36 ≤ cs.length) :
        ¬ (cs.length = 32 && cs.all isHex) = true := by
      intro h
      rw [Bool.and_eq_true, decide_eq_true_eq] at h
      omega
    rcases h with rfl | rfl | rfl | ⟨scheme, rfl, hscheme⟩
    · exact if_pos (by simpa using hds)
    · have hwrapped : unwrapped? (grouped ds) = none := by
        obtain ⟨c, rest, rfl⟩ := List.exists_cons_of_length_pos (l := ds) (by omega)
        exact unwrapped?_eq_none (hds.2 c List.mem_cons_self) _
      rw [if_neg (hgroups (Nat.le_of_eq hgrouped.symm)), hwrapped, Option.elim_none, hread]
    · rw [if_neg (hgroups (by simp [hgrouped])), unwrapped?_braces, Option.elim_some, hread]
    · rw [if_neg (hgroups (by simp [hgrouped])), unwrapped?_urn hscheme, Option.elim_some, hread]

/-- Digits of either letter case are an identifier if they are its digits in lower case. -/
theorem map_toLower_eq_digits_iff {ds : List Char} {u : Uuid} :
    ds.map Char.toLower = hexDigits 32 u.toNat ↔
      (ds.length = 32 ∧ ∀ c ∈ ds, isHex c = true) ∧ ofNat (ofHex ds) = u := by
  have hu : u.toNat < 16 ^ 32 := u.bits.isLt
  rw [map_toLower_eq_hexDigits_iff hu, ← and_assoc]
  refine and_congr_right fun ⟨hlength, hhex⟩ => ?_
  have hds : ofHex ds < 16 ^ 32 := hlength ▸ ofHex_lt hhex
  constructor
  · intro h
    rw [h, ofNat, toNat, BitVec.ofNat_toNat, BitVec.setWidth_eq]
  · rintro rfl
    exact (Nat.mod_eq_of_lt hds).symm

theorem map_toLower_eq_chars_iff {cs : List Char} {u : Uuid} : cs.map Char.toLower = u.chars ↔
    ∃ ds, cs = grouped ds ∧ ds.map Char.toLower = hexDigits 32 u.toNat :=
  map_toLower_eq_grouped_iff (length_hexDigits 32 u.toNat)

/-- An identifier is read from its spellings in either letter case and from nothing else. -/
theorem read_eq_ok_iff {s : String} {u : Uuid} :
    read s = .ok u ↔ s.toList.map Char.toLower ∈ u.spellings := by
  have hread : read s = .ok u ↔ ∃ ds, digits? s.toList = some ds ∧ ofNat (ofHex ds) = u := by
    unfold read
    cases digits? s.toList <;> simp
  rw [hread]
  simp only [digits?_eq_some_iff, spellings, List.mem_cons, List.not_mem_nil, or_false]
  constructor
  · rintro ⟨ds, ⟨hds, h⟩, hu⟩
    have hdigits := map_toLower_eq_digits_iff.mpr ⟨hds, hu⟩
    have hchars := map_toLower_eq_chars_iff.mpr ⟨ds, rfl, hdigits⟩
    rcases h with h | h | h | ⟨scheme, h, hscheme⟩ <;> rw [h]
    · exact .inl hdigits
    · exact .inr (.inl hchars)
    · refine .inr (.inr (.inl ?_))
      rw [List.map_append, List.map_cons, hchars]
      rfl
    · refine .inr (.inr (.inr ?_))
      rw [List.map_append, hscheme, hchars]
  · intro h
    have hspelled {ds : List Char} (hdigits : ds.map Char.toLower = hexDigits 32 u.toNat) :=
      map_toLower_eq_digits_iff.mp hdigits
    rcases h with h | h | h | h
    · exact ⟨_, ⟨(hspelled h).1, .inl rfl⟩, (hspelled h).2⟩
    · obtain ⟨ds, hcs, hdigits⟩ := map_toLower_eq_chars_iff.mp h
      exact ⟨ds, ⟨(hspelled hdigits).1, .inr (.inl hcs)⟩, (hspelled hdigits).2⟩
    · obtain ⟨_, closing, hcs, hopen, hclosing⟩ := List.map_eq_append_iff.mp h
      obtain ⟨opening, inner, rfl, hopening, hinner⟩ := List.map_eq_cons_iff.mp hopen
      obtain ⟨brace, _, rfl, hbrace, hnil⟩ := List.map_eq_cons_iff.mp hclosing
      obtain rfl := List.map_eq_nil_iff.mp hnil
      obtain rfl := Text.eq_of_toLower_eq hopening (by decide)
      obtain rfl := Text.eq_of_toLower_eq hbrace (by decide)
      obtain ⟨ds, rfl, hdigits⟩ := map_toLower_eq_chars_iff.mp hinner
      exact ⟨ds, ⟨(hspelled hdigits).1, .inr (.inr (.inl hcs))⟩, (hspelled hdigits).2⟩
    · obtain ⟨scheme, inner, hcs, hscheme, hinner⟩ := List.map_eq_append_iff.mp h
      obtain ⟨ds, rfl, hdigits⟩ := map_toLower_eq_chars_iff.mp hinner
      exact ⟨ds, ⟨(hspelled hdigits).1, .inr (.inr (.inr ⟨scheme, hcs, hscheme⟩))⟩,
        (hspelled hdigits).2⟩

/-- Every identifier is read from its text. -/
theorem read_text (u : Uuid) : read u.text = .ok u := by
  have hlower : ∀ d < 16, d.digitChar.toLower = d.digitChar := by decide
  have hdigits : (hexDigits 32 u.toNat).map Char.toLower = hexDigits 32 u.toNat := by
    refine (List.map_congr_left fun c hc => ?_).trans (List.map_id _)
    obtain ⟨d, hd, rfl⟩ := exists_digit_of_mem hc
    exact hlower d hd
  have hchars : u.chars.map Char.toLower = u.chars :=
    map_toLower_eq_chars_iff.mpr ⟨_, rfl, hdigits⟩
  rw [read_eq_ok_iff, text, String.toList_ofList, hchars]
  exact .tail _ (.head _)

theorem text_inj {u v : Uuid} : u.text = v.text ↔ u = v := by
  refine ⟨fun h => ?_, congrArg text⟩
  have hread := read_text u
  rw [h, read_text v] at hread
  exact (Except.ok.inj hread).symm

/-! ## Order -/

theorem append_lt_append_iff {a b c d : List Char} (h : a.length = b.length) :
    a ++ c < b ++ d ↔ a < b ∨ a = b ∧ c < d := by
  induction a generalizing b with
  | nil =>
    obtain rfl := List.eq_nil_of_length_eq_zero h.symm
    simp
  | cons x xs ih =>
    cases b with
    | nil => cases h
    | cons y ys =>
      rw [List.cons_append, List.cons_append, List.cons_lt_cons_iff, List.cons_lt_cons_iff,
        ih (Nat.succ.inj h), List.cons.injEq, and_or_left, or_assoc, and_assoc]

theorem digitChar_lt_iff : ∀ d < 16, ∀ e < 16, d.digitChar < e.digitChar ↔ d < e := by
  decide

theorem hexDigits_inj {count m n : Nat} (hm : m < 16 ^ count) (hn : n < 16 ^ count) :
    hexDigits count m = hexDigits count n ↔ m = n := by
  refine ⟨fun h => ?_, congrArg _⟩
  have hvalue := congrArg ofHex h
  rwa [ofHex_hexDigits, ofHex_hexDigits, Nat.mod_eq_of_lt hm, Nat.mod_eq_of_lt hn] at hvalue

/-- Digits are in the order of the numbers that they write. -/
theorem hexDigits_lt_iff {count m n : Nat} (hm : m < 16 ^ count) (hn : n < 16 ^ count) :
    hexDigits count m < hexDigits count n ↔ m < n := by
  induction count generalizing m n with
  | zero =>
    obtain rfl := Nat.lt_one_iff.mp hm
    obtain rfl := Nat.lt_one_iff.mp hn
    simp
  | succ count ih =>
    rw [Nat.pow_succ] at hm hn
    have hm' : m / 16 < 16 ^ count := Nat.div_lt_of_lt_mul (Nat.mul_comm _ _ ▸ hm)
    have hn' : n / 16 < 16 ^ count := Nat.div_lt_of_lt_mul (Nat.mul_comm _ _ ▸ hn)
    have hlast := digitChar_lt_iff (m % 16) (Nat.mod_lt m (by decide)) (n % 16)
      (Nat.mod_lt n (by decide))
    rw [hexDigits, hexDigits, append_lt_append_iff (by simp [length_hexDigits]), ih hm' hn',
      hexDigits_inj hm' hn', List.cons_lt_cons_iff, hlast]
    simp only [List.not_lt_nil, and_false, or_false]
    omega

theorem hyphen_lt_iff {a b c d : List Char} (h : a.length = b.length) :
    a ++ '-' :: c < b ++ '-' :: d ↔ a < b ∨ a = b ∧ c < d := by
  rw [append_lt_append_iff h, List.cons_lt_cons_iff]
  simp

theorem lt_iff_of_cut {ds es : List Char} (h : ds.length = es.length) (k : Nat) :
    ds < es ↔ ds.take k < es.take k ∨ ds.take k = es.take k ∧ ds.drop k < es.drop k := by
  rw [← append_lt_append_iff (by simp [h]), List.take_append_drop, List.take_append_drop]

/-- Hyphens in the same places do not change the order. -/
theorem grouped_lt_iff {ds es : List Char} (h : ds.length = es.length) :
    grouped ds < grouped es ↔ ds < es := by
  have hrest (k : Nat) : (ds.drop k).length = (es.drop k).length := by simp [h]
  have hgroup (k : Nat) : ((ds.drop k).take 4).length = ((es.drop k).take 4).length := by simp [h]
  unfold grouped
  simp only [List.append_assoc, List.cons_append]
  rw [hyphen_lt_iff (by simp [h]), hyphen_lt_iff (hgroup 8), hyphen_lt_iff (hgroup 12),
    hyphen_lt_iff (hgroup 16), lt_iff_of_cut h 8, lt_iff_of_cut (hrest 8) 4, List.drop_drop,
    List.drop_drop, lt_iff_of_cut (hrest 12) 4, List.drop_drop, List.drop_drop,
    lt_iff_of_cut (hrest 16) 4, List.drop_drop, List.drop_drop]

theorem text_lt_iff {u v : Uuid} : u.text < v.text ↔ u.toNat < v.toNat := by
  rw [String.lt_iff, text, text, String.toList_ofList, String.toList_ofList, chars, chars,
    grouped_lt_iff (by rw [length_hexDigits, length_hexDigits]),
    hexDigits_lt_iff u.bits.isLt v.bits.isLt]

theorem toNat_inj {u v : Uuid} : u.toNat = v.toNat ↔ u = v := by
  obtain ⟨x⟩ := u
  obtain ⟨y⟩ := v
  rw [Uuid.mk.injEq]
  exact BitVec.toNat_inj

/-- Texts of identifiers are in the order of the identifiers. -/
theorem compare_text (u v : Uuid) : Ord.compare u.text v.text = u.compare v := by
  have htexts (s t : String) : Ord.compare s t = compareOfLessAndEq s t := rfl
  have hnumbers (m n : Nat) : Ord.compare m n = compareOfLessAndEq m n := rfl
  rw [htexts, compare, hnumbers]
  simp only [compareOfLessAndEq, text_lt_iff, text_inj, toNat_inj]

end AccountRegistry.Uuid
