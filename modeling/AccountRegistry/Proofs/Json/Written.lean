import AccountRegistry.Json.Printer
import AccountRegistry.Json.Reader
import AccountRegistry.Proofs.Result
import Mathlib.Tactic.SplitIfs

/-! # Written strings

Strings are read back from the text that they are written as. Every character is taken in again,
whether it was escaped by a letter, by the digits of its code, or not at all.
-/

namespace AccountRegistry.Json

/-! ## Escapes -/

theorem hexValue?_hexLower : ∀ d < 16, hexValue? (hexLower d) = some d := by decide

theorem hexLower_mod (n : Nat) : hexLower n = hexLower (n % 16) := by
  unfold hexLower
  rw [Nat.mod_mod]

/-- A control character is escaped by the digits of its code. -/
theorem hexQuad?_control {n : Nat} (h : n < 32) :
    hexQuad? '0' '0' (hexLower (n / 16)) (hexLower n) = some n := by
  have hzero : hexValue? '0' = some 0 := by decide
  have hhigh := hexValue?_hexLower (n / 16) (by omega)
  have hlow := hexValue?_hexLower (n % 16) (by omega)
  rw [← hexLower_mod] at hlow
  have hvalue : ((0 * 16 + 0) * 16 + n / 16) * 16 + n % 16 = n := by omega
  rw [hexQuad?, hzero, hhigh, hlow]
  exact congrArg some hvalue

theorem stringBody_plain {c : Char} (hquote : c ≠ '"') (hslash : c ≠ '\\') (hcode : 32 ≤ c.toNat)
    (done rest : List Char) : stringBody done (c :: rest) = stringBody (c :: done) rest := by
  rw [stringBody.eq_def]
  split
  · next heq => cases heq
  · next heq => exact absurd (List.cons.inj heq).1 hquote
  · next heq => exact absurd (List.cons.inj heq).1 hslash
  · next heq =>
    cases heq
    rw [if_neg (Nat.not_lt.mpr hcode)]

theorem stringBody_short {e c : Char} (he : e ≠ 'u') (hc : shortEscape? e = some c)
    (done rest : List Char) :
    stringBody done ('\\' :: e :: rest) = stringBody (c :: done) rest := by
  rw [stringBody.eq_def]
  simp_all

theorem stringBody_control {c : Char} (h : c.toNat < 32) (done rest : List Char) :
    stringBody done
      ('\\' :: 'u' :: '0' :: '0' :: hexLower (c.toNat / 16) :: hexLower c.toNat :: rest) =
        stringBody (c :: done) rest := by
  have hlow : isLowSurrogate c.toNat = false := by
    simp [isLowSurrogate]
    omega
  have hhigh : isHighSurrogate c.toNat = false := by
    simp [isHighSurrogate]
    omega
  rw [stringBody.eq_def]
  simp [hexQuad?_control h, hlow, hhigh]

/-- Every character is taken in from its written form. -/
theorem stringBody_escapeChar (c : Char) (done rest : List Char) :
    stringBody done (escapeChar c ++ rest) = stringBody (c :: done) rest := by
  unfold escapeChar
  split_ifs with hquote hslash hline hreturn htab hback hfeed hcontrol
  · exact stringBody_short (by decide) (by rw [hquote]; rfl) done rest
  · exact stringBody_short (by decide) (by rw [hslash]; rfl) done rest
  · exact stringBody_short (by decide) (by rw [hline]; rfl) done rest
  · exact stringBody_short (by decide) (by rw [hreturn]; rfl) done rest
  · exact stringBody_short (by decide) (by rw [htab]; rfl) done rest
  · exact stringBody_short (by decide) (by rw [← Char.ofNat_toNat c, hback]; rfl) done rest
  · exact stringBody_short (by decide) (by rw [← Char.ofNat_toNat c, hfeed]; rfl) done rest
  · exact stringBody_control hcontrol done rest
  · exact stringBody_plain hquote hslash (Nat.le_of_not_lt hcontrol) done rest

/-! ## Strings -/

theorem stringBody_escaped (cs done rest : List Char) :
    stringBody done (cs.flatMap escapeChar ++ '"' :: rest) =
      .ok (String.ofList (done.reverse ++ cs), rest) := by
  induction cs generalizing done with
  | nil =>
    rw [stringBody.eq_def]
    simp
  | cons c cs ih =>
    rw [List.flatMap_cons, List.append_assoc, stringBody_escapeChar, ih]
    simp

theorem printString_eq (s : String) :
    printString s = '"' :: (s.toList.flatMap escapeChar ++ ['"']) := rfl

/-- A string is read back from its text. -/
theorem stringBody_printed (s : String) (rest : List Char) :
    stringBody [] (s.toList.flatMap escapeChar ++ '"' :: rest) = .ok (s, rest) := by
  rw [stringBody_escaped]
  simp

theorem parse_print_string (s : String) : parse (Value.string s).print = .ok (.string s) := by
  have hread : value maxDepth (printString s) = .ok (.string s, []) := by
    rw [printString_eq]
    unfold maxDepth value
    exact map_eq_ok_iff.mpr ⟨_, stringBody_printed s [], rfl⟩
  unfold parse Value.print parseChars
  rw [String.toList_ofList, printValue, hread]
  rfl

end AccountRegistry.Json
