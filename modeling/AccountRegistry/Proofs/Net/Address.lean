import AccountRegistry.Net.Address
import AccountRegistry.Proofs.Result
import AccountRegistry.Proofs.Text.Split
import AccountRegistry.Proofs.Uuid
import Mathlib.Data.List.TakeWhile

/-! # Addresses read from their texts

Every address is read back from the text in which it is written, also where zeros are left out and
where octets end the groups.
-/

namespace AccountRegistry

namespace IpAddress

/-! ## Digits -/

theorem ofDigits_append_singleton (base : Nat) (ds : List Nat) (d : Nat) :
    ofDigits base (ds ++ [d]) = ofDigits base ds * base + d := by
  unfold ofDigits
  rw [List.foldl_append]
  rfl

theorem ofDigits_digitsOf (base count n : Nat) :
    ofDigits base (digitsOf base count n) = n % base ^ count := by
  induction count generalizing n with
  | zero => exact (Nat.mod_one n).symm
  | succ count ih =>
    rw [digitsOf, ofDigits_append_singleton, ih, Nat.pow_succ', Nat.mod_mul, Nat.add_comm,
      Nat.mul_comm]

theorem length_digitsOf (base count n : Nat) : (digitsOf base count n).length = count := by
  induction count generalizing n with
  | zero => rfl
  | succ count ih => rw [digitsOf, List.length_append, ih, List.length_singleton]

theorem lt_of_mem_digitsOf {base count n d : Nat} (hbase : 0 < base)
    (hd : d ∈ digitsOf base count n) : d < base := by
  induction count generalizing n with
  | zero => cases hd
  | succ count ih =>
    rw [digitsOf, List.mem_append, List.mem_singleton] at hd
    rcases hd with hd | rfl
    · exact ih hd
    · exact Nat.mod_lt n hbase

/-! ## Four octets -/

theorem octet?_toString : ∀ n < 256, octet? (toString n).toList = some n := by
  decide +kernel

/-- An octet is a run of digits. -/
theorem isDigit_of_octet? {cs : List Char} {n : Nat} (h : octet? cs = some n) {c : Char}
    (hc : c ∈ cs) : c.isDigit = true := by
  unfold octet? at h
  dsimp only at h
  rw [Option.ite_none_right_eq_some] at h
  simp only [Bool.and_eq_true, List.all_eq_true] at h
  exact h.1.1.1.2 c hc

theorem toList_v4Text (n : Nat) : (v4Text n).toList =
    ['.'].intercalate ((digitsOf 256 4 n).map fun d => (toString d).toList) := by
  rw [v4Text, String.toList_intercalate, List.map_map]
  rfl

theorem readV4?_v4Text (n : Nat) : readV4? (v4Text n).toList = some (n % 2 ^ 32) := by
  have hoctets : ∀ d ∈ digitsOf 256 4 n, octet? (toString d).toList = some d := fun d hd =>
    octet?_toString d (lt_of_mem_digitsOf (by decide) hd)
  have hparts : Text.splitAll '.' (v4Text n).toList =
      (digitsOf 256 4 n).map fun d => (toString d).toList := by
    rw [toList_v4Text]
    refine Text.splitAll_intercalate (by simp [digitsOf]) fun part hpart hdot => ?_
    obtain ⟨d, hd, rfl⟩ := List.mem_map.mp hpart
    exact absurd (isDigit_of_octet? (hoctets d hd) hdot) (by decide)
  have hvalue := ofDigits_digitsOf 256 4 n
  unfold readV4?
  rw [hparts, mapM_map_eq_some hoctets]
  exact congrArg some hvalue

/-- A text with a character that is no digit and no dot is no sequence of octets. -/
theorem readV4?_eq_none {cs : List Char} {c : Char} (hc : c ∈ cs) (hdot : c ≠ '.')
    (hdigit : c.isDigit = false) : readV4? cs = none := by
  obtain ⟨part, hpart, hin⟩ := Text.exists_mem_splitAll hc hdot
  unfold readV4?
  cases hread : (Text.splitAll '.' cs).mapM octet? with
  | none => rfl
  | some ds =>
    obtain ⟨n, hn⟩ := exists_mapM_eq_some_iff.mp ⟨ds, hread⟩ part hpart
    rw [isDigit_of_octet? hn hin] at hdigit
    cases hdigit

/-! ## Groups -/

theorem toList_groupText (g : Nat) : (groupText g).toList = Nat.toDigits 16 g :=
  String.toList_ofList

theorem toList_groupsText (gs : List Nat) :
    (groupsText gs).toList = [':'].intercalate (gs.map (Nat.toDigits 16)) := by
  rw [groupsText, String.toList_intercalate, List.map_map]
  exact congrArg _ (List.map_congr_left fun g _ => toList_groupText g)

/-- The colons of a text of groups stand between them. -/
theorem colon_not_mem_group {gs : List Nat} :
    ∀ part ∈ gs.map (Nat.toDigits 16), ':' ∉ part := by
  intro part hpart hcolon
  obtain ⟨g, -, rfl⟩ := List.mem_map.mp hpart
  exact absurd ((Uuid.ofHex_toDigits g).2 _ hcolon) (by decide)

theorem group?_toDigits {g : Nat} (hg : g < 65536) : group? (Nat.toDigits 16 g) = some g := by
  obtain ⟨hvalue, hhex⟩ := Uuid.ofHex_toDigits g
  have hlength := (Nat.length_toDigits_le_iff (b := 16) (k := 4) (by decide) (by decide)).mpr hg
  have hpos : 1 ≤ (Nat.toDigits 16 g).length := Nat.length_toDigits_pos
  unfold group?
  rw [hvalue, if_pos]
  simpa [hpos, hlength] using hhex

theorem groupsOf_toDigits (dotted : Bool) {gs : List Nat} (hgs : ∀ g ∈ gs, g < 65536) :
    groupsOf dotted (gs.map (Nat.toDigits 16)) = some gs := by
  induction gs with
  | nil => rfl
  | cons g gs ih =>
    rw [List.forall_mem_cons] at hgs
    cases gs with
    | nil =>
      rw [List.map_singleton, groupsOf, group?_toDigits hgs.1]
    | cons next gs =>
      have hrest := ih hgs.2
      rw [List.map_cons] at hrest
      rw [List.map_cons, List.map_cons, groupsOf, group?_toDigits hgs.1, hrest]
      · rfl
      · exact nofun

theorem groups?_groupsText (dotted : Bool) {gs : List Nat} (hgs : ∀ g ∈ gs, g < 65536) :
    groups? dotted (groupsText gs).toList = some gs := by
  cases gs with
  | nil => rfl
  | cons g gs =>
    have hparts : Text.splitAll ':' (groupsText (g :: gs)).toList =
        (g :: gs).map (Nat.toDigits 16) := by
      rw [toList_groupsText]
      exact Text.splitAll_intercalate (List.cons_ne_nil _ _) colon_not_mem_group
    unfold groups?
    rw [hparts, if_neg, groupsOf_toDigits dotted hgs]
    intro hempty
    rw [List.isEmpty_iff.mp hempty] at hparts
    exact Nat.toDigits_ne_nil (List.cons.inj hparts).1.symm

/-! ## The longest run of zeros -/

theorem longestZeros_eq (start : Nat) (gs : List Nat) : ∃ front back,
    gs = front ++ List.replicate (longestZeros start gs).2 0 ++ back ∧
      (longestZeros start gs).1 = start + front.length := by
  induction gs generalizing start with
  | nil => exact ⟨[], [], rfl, rfl⟩
  | cons g gs ih =>
    rw [longestZeros]
    split
    · obtain ⟨front, back, hgs, hstart⟩ := ih (start + 1)
      refine ⟨g :: front, back, congrArg (List.cons g) hgs, ?_⟩
      rw [hstart, List.length_cons]
      omega
    · refine ⟨[], (g :: gs).dropWhile (· == 0), ?_, rfl⟩
      have hzeros : (g :: gs).takeWhile (· == 0) = List.replicate (zeros (g :: gs)) 0 :=
        List.eq_replicate_of_mem fun d hd => by simpa using List.mem_takeWhile_imp hd
      rw [List.nil_append, ← hzeros, List.takeWhile_append_dropWhile]

/-! ## Eight groups -/

variable {gs front back : List Nat}

theorem splitFirst?_groupsText (gs : List Nat) (rest : List Char) :
    Text.splitFirst? "::".toList ((groupsText gs).toList ++ rest) =
      (Text.splitFirst? "::".toList rest).map fun p => ((groupsText gs).toList ++ p.1, p.2) := by
  rw [toList_groupsText]
  refine Text.splitFirst?_intercalate (fun part hpart => ?_) colon_not_mem_group rest
  obtain ⟨g, -, rfl⟩ := List.mem_map.mp hpart
  exact Nat.toDigits_ne_nil

theorem readV6?_groupsText (hgs : ∀ g ∈ gs, g < 65536) (hlength : gs.length = 8) :
    readV6? (groupsText gs).toList = some (ofDigits 65536 gs) := by
  have hwhole : Text.splitFirst? "::".toList (groupsText gs).toList = none := by
    have hend := splitFirst?_groupsText gs []
    rw [List.append_nil] at hend
    exact hend
  unfold readV6?
  rw [hwhole]
  dsimp only
  rw [groups?_groupsText true hgs]
  exact if_pos hlength

/-- The groups that a double colon stands for are zeros. -/
theorem readV6?_doubleColon {tail : List Char} (hfront : ∀ g ∈ front, g < 65536)
    (htail : groups? true tail = some back) (hlength : front.length + back.length ≤ 7) :
    readV6? ((groupsText front).toList ++ "::".toList ++ tail) = some (ofDigits 65536
      (front ++ List.replicate (8 - front.length - back.length) 0 ++ back)) := by
  have hsplit : Text.splitFirst? "::".toList
      ((groupsText front).toList ++ "::".toList ++ tail) =
        some ((groupsText front).toList, tail) := by
    rw [List.append_assoc, splitFirst?_groupsText]
    exact congrArg (fun cs => some (cs, tail)) (List.append_nil _)
  unfold readV6?
  rw [hsplit]
  dsimp only
  rw [groups?_groupsText false hfront, htail]
  exact if_pos hlength

/-- The last two groups can be written as octets. -/
theorem groups?_dotted (n : Nat) : groups? true ("ffff:".toList ++ (v4Text n).toList) =
    some (65535 :: digitsOf 65536 2 (n % 2 ^ 32)) := by
  have hcolon : ':' ∉ (v4Text n).toList := fun h => by
    have hnone := readV4?_eq_none h (by decide) (by decide)
    rw [readV4?_v4Text] at hnone
    cases hnone
  have hgroup : group? (v4Text n).toList = none := by
    have hdot : '.' ∈ (v4Text n).toList := by
      rw [toList_v4Text]
      simp [digitsOf]
    unfold group?
    rw [if_neg]
    rw [Bool.and_eq_true, List.all_eq_true]
    exact fun h => absurd (h.2 '.' hdot) (by decide)
  have hparts : Text.splitAll ':' ("ffff:".toList ++ (v4Text n).toList) =
      ["ffff".toList, (v4Text n).toList] := by
    have hsplit : Text.splitAll ':' ("ffff".toList ++ ':' :: (v4Text n).toList) =
        Text.splitAll ':' "ffff".toList ++ Text.splitAll ':' (v4Text n).toList :=
      Text.splitAll_append _ _
    rw [Text.splitAll_of_not_mem hcolon] at hsplit
    exact hsplit
  have hfirst : group? "ffff".toList = some 65535 := by decide
  unfold groups?
  rw [hparts, if_neg (by simp), groupsOf, groupsOf, hgroup, hfirst]
  · dsimp only
    rw [if_pos rfl, readV4?_v4Text]
    rfl
  · exact nofun

theorem readV6?_shortened {length : Nat}
    (hgs : ∀ g ∈ front ++ List.replicate length 0 ++ back, g < 65536)
    (hlength : (front ++ List.replicate length 0 ++ back).length = 8) (hlong : 2 ≤ length) :
    readV6? (groupsText front ++ "::" ++ groupsText back).toList =
      some (ofDigits 65536 (front ++ List.replicate length 0 ++ back)) := by
  rw [List.forall_mem_append, List.forall_mem_append] at hgs
  rw [List.length_append, List.length_append, List.length_replicate] at hlength
  have hzeros : 8 - front.length - back.length = length := by omega
  rw [String.toList_append, String.toList_append,
    readV6?_doubleColon hgs.1.1 (groups?_groupsText true hgs.2) (by omega), hzeros]

theorem readV6?_mapped {n : Nat}
    (h : (digitsOf 65536 8 n).take 6 = [0, 0, 0, 0, 0, 65535]) :
    readV6? ("::ffff:" ++ v4Text n).toList = some (ofDigits 65536 (digitsOf 65536 8 n)) := by
  have hdigits : digitsOf 65536 8 n = digitsOf 65536 6 (n / 65536 / 65536) ++
      digitsOf 65536 2 n := by
    rw [digitsOf, digitsOf, List.append_assoc]
    rfl
  have hlow : digitsOf 65536 2 (n % 2 ^ 32) = digitsOf 65536 2 n := by
    have hfirst : n % 2 ^ 32 / 65536 % 65536 = n / 65536 % 65536 := by omega
    have hsecond : n % 2 ^ 32 % 65536 = n % 65536 := by omega
    change [n % 2 ^ 32 / 65536 % 65536, n % 2 ^ 32 % 65536] = [n / 65536 % 65536, n % 65536]
    rw [hfirst, hsecond]
  rw [hdigits, List.take_left' (length_digitsOf _ _ _)] at h
  have hread := readV6?_doubleColon (List.forall_mem_nil _) (groups?_dotted n)
    (by rw [List.length_cons, length_digitsOf]; decide)
  rw [hlow, List.length_cons, length_digitsOf] at hread
  have htext : ("::ffff:" ++ v4Text n).toList =
      (groupsText []).toList ++ "::".toList ++ ("ffff:".toList ++ (v4Text n).toList) := by
    rw [String.toList_append, ← List.append_assoc]
    exact congrArg (· ++ (v4Text n).toList) (by decide)
  rw [htext, hread, hdigits, h]
  rfl

theorem readV6?_v6Text (n : Nat) : readV6? (v6Text n).toList = some (n % 2 ^ 128) := by
  have hlt : ∀ g ∈ digitsOf 65536 8 n, g < 65536 := fun g => lt_of_mem_digitsOf (by decide)
  have hlength := length_digitsOf 65536 8 n
  have hvalue : ofDigits 65536 (digitsOf 65536 8 n) = n % 2 ^ 128 := ofDigits_digitsOf 65536 8 n
  obtain ⟨front, back, hgs, hstart⟩ := longestZeros_eq 0 (digitsOf 65536 8 n)
  rw [Nat.zero_add] at hstart
  rw [← hvalue, v6Text]
  dsimp only
  rw [hstart]
  split
  · next hmapped => exact readV6?_mapped hmapped
  · split
    · next hlong =>
      generalize (longestZeros 0 (digitsOf 65536 8 n)).2 = length at hgs hlong
      rw [hgs] at hlt hlength ⊢
      rw [List.append_assoc, List.take_left, ← List.append_assoc,
        List.drop_left' (by rw [List.length_append, List.length_replicate])]
      exact readV6?_shortened hlt hlength hlong
    · exact readV6?_groupsText hlt hlength

/-- Texts of eight groups have a colon. -/
theorem colon_mem_v6Text (n : Nat) : ':' ∈ (v6Text n).toList := by
  unfold v6Text
  dsimp only
  split
  · simp
  · split
    · simp
    · rw [toList_groupsText]
      simp [digitsOf]

/-- Every address is read from its text. -/
theorem read?_text (a : IpAddress) : read? a.text = some a := by
  unfold read?
  cases a with
  | v4 bits =>
    rw [text, readV4?_v4Text, Nat.mod_eq_of_lt bits.isLt]
    dsimp only
    rw [BitVec.ofNat_toNat, BitVec.setWidth_eq]
  | v6 bits =>
    rw [text, readV4?_eq_none (colon_mem_v6Text _) (by decide) (by decide), readV6?_v6Text,
      Nat.mod_eq_of_lt bits.isLt]
    dsimp only
    rw [Option.map_some, BitVec.ofNat_toNat, BitVec.setWidth_eq]

end IpAddress

end AccountRegistry
