import AccountRegistry.Text.LowerCase
import Mathlib.Data.List.Basic

/-! # Lower case

The lower case of a character is one character, that of the dotted capital I apart. What comes
before the small letters in ASCII is in the lower case of itself only. Only for a capital sigma does
it matter what stands around a character. A text of ASCII is the lower case of nothing but its own
letters in either case and the Kelvin sign.
-/

namespace AccountRegistry.Text

/-! ## Single characters -/

/-- Letters beyond ASCII get forms that are characters, none of them below the small letters. -/
theorem caseRuns_valid : ∀ r ∈ caseRuns, 0x61 ≤ r.first + r.shift ∧
    (r.last + r.shift < 0xD800 ∨ 0xE000 ≤ r.first + r.shift ∧ r.last + r.shift < 0x110000) := by
  decide +kernel

theorem toNat_of_covers {r : CaseRun} (hr : r ∈ caseRuns) {n : Nat} (hn : r.covers n = true) :
    ((Char.ofNat (n + r.shift).toNat).toNat : Int) = n + r.shift := by
  obtain ⟨hlow, hvalid⟩ := caseRuns_valid r hr
  simp only [CaseRun.covers, Bool.and_eq_true, decide_eq_true_eq] at hn
  have hchar : (n + r.shift).toNat.isValidChar := by
    simp only [Nat.isValidChar]
    omega
  rw [Char.ofNat, dif_pos hchar]
  change ((n + r.shift).toNat : Int) = n + r.shift
  omega

theorem le_toNat_of_covers {r : CaseRun} (hr : r ∈ caseRuns) {n : Nat} (hn : r.covers n = true) :
    0x61 ≤ (Char.ofNat (n + r.shift).toNat).toNat := by
  have hlow := (caseRuns_valid r hr).1
  have hchar := toNat_of_covers hr hn
  simp only [CaseRun.covers, Bool.and_eq_true, decide_eq_true_eq] at hn
  omega

theorem toLower_cases (c : Char) :
    c.toLower = c ∨ 0x61 ≤ c.toLower.toNat ∧ c.toLower.toNat ≤ 0x7A := by
  unfold Char.toLower
  split
  · next hupper =>
    have hcapital : 0x41 ≤ c.val.toNat ∧ c.val.toNat ≤ 0x5A := hupper
    refine .inr ?_
    change 0x61 ≤ (c.val.toNat + 0x20) % UInt32.size ∧ (c.val.toNat + 0x20) % UInt32.size ≤ 0x7A
    rw [Nat.mod_eq_of_lt (by simp only [UInt32.size]; omega)]
    omega
  · exact .inl rfl

/-- Only small letters are the lower case of others. -/
theorem eq_of_toLower_eq {c d : Char} (h : c.toLower = d) (hd : d.toNat < 0x61 ∨ 0x7A < d.toNat) :
    c = d := by
  subst h
  exact ((toLower_cases c).resolve_right (by omega)).symm

theorem toLower_of_le {c : Char} (h : 0x80 ≤ c.toNat) : c.toLower = c := by
  unfold Char.toLower
  refine dif_neg fun hupper => ?_
  have hcapital : c.toNat ≤ 0x5A := hupper.2
  omega

theorem lowerChar_dotted : lowerChar 'İ' = ['i', '\u0307'] := rfl

theorem lowerChar_cases {c : Char} (h : c ≠ 'İ') :
    lowerChar c = [c] ∨ ∃ d, lowerChar c = [d] ∧ 0x61 ≤ d.toNat := by
  by_cases hascii : c.toNat < 0x80
  · rw [lowerChar_ascii hascii]
    exact (toLower_cases c).imp (congrArg fun d => [d]) fun hd => ⟨_, rfl, hd.1⟩
  have hdotted : c.toNat ≠ 0x130 := fun hc => h (Char.toNat_inj.mp hc)
  rw [lowerChar, if_neg hascii, if_neg hdotted]
  split
  · next r hr =>
    have hcovers : r.covers c.toNat = true := by simpa using List.find?_some hr
    exact .inr ⟨_, rfl, le_toNat_of_covers (List.mem_of_find?_eq_some hr) hcovers⟩
  · exact .inl rfl

theorem exists_lowerChar_eq_singleton {c : Char} (h : c ≠ 'İ') : ∃ d, lowerChar c = [d] := by
  rcases lowerChar_cases h with hc | ⟨d, hc, -⟩
  · exact ⟨c, hc⟩
  · exact ⟨d, hc⟩

/-- A sign or digit of ASCII is in the lower case of no other character. -/
theorem eq_of_mem_lowerChar {c d : Char} (hd : d ∈ lowerChar c) (hlow : d.toNat < 0x61) :
    c = d := by
  by_cases hdotted : c = 'İ'
  · rw [hdotted, lowerChar_dotted, List.mem_pair] at hd
    rcases hd with rfl | rfl <;> exact absurd hlow (by decide)
  · rcases lowerChar_cases hdotted with hc | ⟨e, hc, he⟩
    · rw [hc, List.mem_singleton] at hd
      exact hd.symm
    · rw [hc, List.mem_singleton] at hd
      subst hd
      exact absurd hlow (Nat.not_lt.mpr he)

/-! ## Texts -/

theorem lowerAfter_cons {c : Char} (h : c ≠ 'Σ') (before rest : List Char) :
    lowerAfter before (c :: rest) = lowerChar c ++ lowerAfter (c :: before) rest := by
  rw [lowerAfter, if_neg h]

/-- The form of a capital sigma between two texts, the first of them written backwards. -/
def sigmaIn (before rest : List Char) : Char :=
  if meetsLetter before && !meetsLetter rest then 'ς' else 'σ'

theorem lowerAfter_sigma (before rest : List Char) :
    lowerAfter before ('Σ' :: rest) = sigmaIn before rest :: lowerAfter ('Σ' :: before) rest := by
  rw [lowerAfter, if_pos rfl, sigmaIn]

theorem exists_lowerAfter_cons {c : Char} (h : c ≠ 'İ') (before rest : List Char) :
    ∃ d, lowerAfter before (c :: rest) = d :: lowerAfter (c :: before) rest := by
  by_cases hsigma : c = 'Σ'
  · subst hsigma
    exact ⟨_, lowerAfter_sigma before rest⟩
  · obtain ⟨d, hd⟩ := exists_lowerChar_eq_singleton h
    rw [lowerAfter_cons hsigma, hd]
    exact ⟨d, rfl⟩

/-- What follows some characters is lowered as it would be behind them. -/
theorem exists_lowerAfter_append (before cs rest : List Char) :
    ∃ ds, lowerAfter before (cs ++ rest) = ds ++ lowerAfter (cs.reverse ++ before) rest := by
  induction cs generalizing before with
  | nil => exact ⟨[], rfl⟩
  | cons c cs ih =>
    obtain ⟨ds, hds⟩ := ih (c :: before)
    have hbefore : (c :: cs).reverse ++ before = cs.reverse ++ c :: before := by simp
    rw [hbefore, List.cons_append, lowerAfter]
    split
    · exact ⟨_ :: ds, congrArg _ hds⟩
    · exact ⟨lowerChar c ++ ds, by rw [hds, List.append_assoc]⟩

/-! ## Texts of ASCII -/

theorem caseRuns_beyond_ascii : ∀ r ∈ caseRuns,
    0x80 ≤ r.first + r.shift ∨ r.first = 0x212A ∧ r.last = 0x212A := by
  decide +kernel

/-- Only the Kelvin sign has a lower case in ASCII; that of the dotted capital I ends beyond it. -/
theorem exists_beyond_ascii {c : Char} (h : 0x80 ≤ c.toNat) (hkelvin : c ≠ '\u212A') :
    ∃ d ∈ lowerChar c, 0x80 ≤ d.toNat := by
  by_cases hdotted : c.toNat = 0x130
  · rw [lowerChar, if_neg (Nat.not_lt.mpr h), if_pos hdotted]
    exact ⟨'\u0307', by decide, by decide⟩
  rw [lowerChar, if_neg (Nat.not_lt.mpr h), if_neg hdotted]
  split
  · next r hr =>
    have hcovers : r.covers c.toNat = true := by simpa using List.find?_some hr
    have hmem := List.mem_of_find?_eq_some hr
    have hchar := toNat_of_covers hmem hcovers
    have hne : c.toNat ≠ 0x212A := fun hc => hkelvin (Char.toNat_inj.mp hc)
    have hrun := caseRuns_beyond_ascii r hmem
    simp only [CaseRun.covers, Bool.and_eq_true, decide_eq_true_eq] at hcovers
    exact ⟨_, List.mem_singleton_self _, by omega⟩
  · exact ⟨c, List.mem_singleton_self c, h⟩

/-- The lower case in ASCII, where there is one. -/
def asciiLower (c : Char) : Char := if c = '\u212A' then 'k' else c.toLower

theorem lowerAfter_cons_cases (before : List Char) (c : Char) (rest : List Char) :
    lowerAfter before (c :: rest) = asciiLower c :: lowerAfter (c :: before) rest ∨
      0x80 ≤ (asciiLower c).toNat ∧ ∃ d ∈ lowerAfter before (c :: rest), 0x80 ≤ d.toNat := by
  by_cases hkelvin : c = '\u212A'
  · subst hkelvin
    refine .inl ?_
    rw [lowerAfter_cons (by decide)]
    rfl
  rw [asciiLower, if_neg hkelvin]
  by_cases hascii : c.toNat < 0x80
  · refine .inl ?_
    have hsigma : c ≠ 'Σ' := by
      rintro rfl
      exact absurd hascii (by decide)
    rw [lowerAfter_cons hsigma, lowerChar_ascii hascii]
    rfl
  have hc : 0x80 ≤ c.toNat := Nat.le_of_not_lt hascii
  rw [toLower_of_le hc]
  refine .inr ⟨hc, ?_⟩
  by_cases hsigma : c = 'Σ'
  · subst hsigma
    rw [lowerAfter_sigma]
    refine ⟨_, List.mem_cons_self, ?_⟩
    unfold sigmaIn
    split <;> decide
  · rw [lowerAfter_cons hsigma]
    obtain ⟨d, hd, hbeyond⟩ := exists_beyond_ascii hc hkelvin
    exact ⟨d, List.mem_append_left _ hd, hbeyond⟩

theorem lowerAfter_eq_iff {before cs ts : List Char} (h : ∀ t ∈ ts, t.toNat < 0x80) :
    lowerAfter before cs = ts ↔ cs.map asciiLower = ts := by
  induction cs generalizing before ts with
  | nil => rfl
  | cons c rest ih =>
    rcases lowerAfter_cons_cases before c rest with hcons | ⟨hc, d, hd, hbeyond⟩
    · rw [hcons, List.map_cons]
      cases ts with
      | nil => simp
      | cons t ts =>
        rw [List.cons.injEq, List.cons.injEq, ih (List.forall_mem_cons.mp h).2]
    · refine iff_of_false ?_ ?_
      · rintro rfl
        exact absurd (h d hd) (Nat.not_lt.mpr hbeyond)
      · rintro rfl
        exact absurd (h _ List.mem_cons_self) (Nat.not_lt.mpr hc)

/-- All characters of a text are in ASCII. -/
def IsAscii (s : String) : Prop := ∀ c ∈ s.toList, c.toNat < 0x80

instance (s : String) : Decidable (IsAscii s) :=
  List.decidableBAll (fun c : Char => c.toNat < 0x80) s.toList

/-- A text of ASCII is the lower case of the texts with its letters in either case, where a Kelvin
sign counts as a letter. -/
theorem lower_eq_iff {s t : String} (h : IsAscii t) : lower s = t ↔ s.map asciiLower = t := by
  rw [← String.toList_inj, ← String.toList_inj, String.toList_map, ← lowerAfter_eq_iff h, lower,
    String.toList_ofList]

theorem asciiLower_eq_iff {c t : Char} (ht : t.toNat < 0x80) (hk : c ≠ '\u212A' ∨ t ≠ 'k') :
    asciiLower c = t ↔ c.toLower = t := by
  unfold asciiLower
  split
  · next hkelvin =>
    subst hkelvin
    refine iff_of_false (hk.resolve_left (absurd rfl)).symm ?_
    rintro rfl
    exact absurd ht (by decide)
  · exact Iff.rfl

/-- Without a Kelvin sign, or without the letter that it counts as, only letters of ASCII are
lowered. -/
theorem lower_eq_iff_map {s t : String} (h : IsAscii t)
    (hk : '\u212A' ∉ s.toList ∨ 'k' ∉ t.toList) : lower s = t ↔ s.map Char.toLower = t := by
  have hsame {c d : Char} (hc : c ∈ s.toList) (hd : d ∈ t.toList) :
      asciiLower c = d ↔ c.toLower = d := by
    refine asciiLower_eq_iff (h d hd) (hk.imp (fun hs => ?_) fun ht => ?_)
    · rintro rfl
      exact hs hc
    · rintro rfl
      exact ht hd
  rw [lower_eq_iff h, ← String.toList_inj, ← String.toList_inj, String.toList_map,
    String.toList_map]
  constructor
  · intro hmap
    rw [← hmap]
    exact List.map_congr_left fun c hc => (hsame hc (hmap ▸ List.mem_map_of_mem hc)).mp rfl
  · intro hmap
    rw [← hmap]
    exact List.map_congr_left fun c hc => (hsame hc (hmap ▸ List.mem_map_of_mem hc)).mpr rfl

/-! ## Capital sigmas -/

/-- The forms that the capital sigmas of a text take, which stands behind `before`. -/
def sigmas (before : List Char) : List Char → List Char
  | [] => []
  | c :: rest =>
    if c = 'Σ' then sigmaIn before rest :: sigmas (c :: before) rest else sigmas (c :: before) rest

theorem sigmaIn_mem_sigmas (before rest : List Char) :
    sigmaIn before rest ∈ sigmas before ('Σ' :: rest) := by
  rw [sigmas, if_pos rfl]
  exact .head _

theorem sigmas_subset_cons (before : List Char) (c : Char) (rest : List Char) :
    sigmas (c :: before) rest ⊆ sigmas before (c :: rest) := by
  rw [sigmas]
  split
  · exact List.subset_cons_self _ _
  · exact List.Subset.refl _

theorem sigmas_subset_append (before cs rest : List Char) :
    sigmas (cs.reverse ++ before) rest ⊆ sigmas before (cs ++ rest) := by
  induction cs generalizing before with
  | nil => exact List.Subset.refl _
  | cons c cs ih =>
    rw [List.reverse_cons, List.append_assoc, List.singleton_append]
    exact List.Subset.trans (ih (c :: before)) (sigmas_subset_cons before c (cs ++ rest))

end AccountRegistry.Text
