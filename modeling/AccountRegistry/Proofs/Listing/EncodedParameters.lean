import AccountRegistry.Proofs.Json.Words
import AccountRegistry.Proofs.Json.Written
import AccountRegistry.Proofs.Text.Percent
import AccountRegistry.Query.Filter
import AccountRegistry.Query.Sort

/-! # Encoded parameters

A parameter that holds JSON keeps its meaning when it is percent-encoded once more. An encoded text
is JSON only if nothing in it had to be escaped, so that no second meaning can get in the way.
-/

namespace AccountRegistry

open Text

/-- A parameter that has been percent-encoded once more. -/
def encodedParam (raw : String) : String := String.ofList (Percent.encode raw.toList)

theorem isBare_encode (cs : List Char) : Json.IsBare (Percent.encode cs) := by
  intro c hc
  obtain ⟨-, rfl | hunreserved⟩ := Percent.of_mem_encode hc
  · decide
  · refine ⟨?_, ?_, ?_⟩
    all_goals
      rintro rfl
      exact absurd hunreserved (by decide)

/-- An encoded text that is JSON is the text that was encoded. -/
theorem encode_eq_of_parseChars {cs : List Char} {v : Json.Value}
    (h : Json.parseChars (Percent.encode cs) = .ok v) : Percent.encode cs = cs :=
  Percent.encode_eq_self (Json.percent_not_mem_of_parseChars h (isBare_encode cs))

theorem jsonOf_eq_ok_iff {cs : List Char} {w : Json.Value} :
    jsonOf cs = .ok w ↔ ∃ v, Json.parseChars cs = .ok v ∧ v.canonical = w := by
  unfold jsonOf
  cases Json.parseChars cs with
  | error f => exact ⟨nofun, nofun⟩
  | ok v => simp

theorem jsonOf_eq_error {cs : List Char} {f : Json.Fault} (h : Json.parseChars cs = .error f) :
    jsonOf cs = .error (f.message cs) := by
  unfold jsonOf
  rw [h]

theorem decodeParam_of_jsonOf {raw : String} {w : Json.Value} (h : jsonOf raw.toList = .ok w) :
    decodeParam raw = .ok w := by
  unfold decodeParam
  rw [h]

theorem decodeParam_encodedParam {raw : String} {w : Json.Value}
    (h : jsonOf raw.toList = .ok w) : decodeParam (encodedParam raw) = .ok w := by
  unfold decodeParam encodedParam
  rw [String.toList_ofList]
  cases hencoded : jsonOf (Percent.encode raw.toList) with
  | ok w' =>
    obtain ⟨v, hv, -⟩ := jsonOf_eq_ok_iff.mp hencoded
    rw [encode_eq_of_parseChars hv, h] at hencoded
    cases hencoded
    rfl
  | error reason =>
    have hne : raw.toList ≠ Percent.encode raw.toList := by
      intro heq
      rw [← heq, h] at hencoded
      cases hencoded
    rw [Percent.decode_encode]
    dsimp only
    rw [if_neg hne, h]
    rfl

theorem decodeParam_malformed {raw : String} {f : Json.Fault} (h : Json.parse raw = .error f)
    (hdecoded : ∀ cs, Percent.decode raw.toList = .ok cs → ∃ f', Json.parseChars cs = .error f') :
    ∃ reason, decodeParam raw = .error (.malformed reason) := by
  unfold decodeParam
  rw [jsonOf_eq_error h]
  dsimp only
  split
  · exact ⟨_, rfl⟩
  · next cs hcs =>
    split
    · exact ⟨_, rfl⟩
    · obtain ⟨f', hf'⟩ := hdecoded cs hcs
      rw [jsonOf_eq_error hf']
      exact ⟨_, rfl⟩

/-- Encoding a JSON parameter once more changes nothing, and what is no JSON either way is
malformed. -/
theorem encoding_keeps_parameters :
    (∀ raw v, Json.parse raw = .ok v →
      decodeParam raw = .ok v.canonical ∧ decodeParam (encodedParam raw) = .ok v.canonical ∧
      (∀ (P : Type) [FilterProperty P],
        Filter.read (P := P) (some (encodedParam raw)) = Filter.read (some raw)) ∧
      ∀ (P : Type) [SortProperty P],
        SortOrder.read (P := P) (some (encodedParam raw)) = SortOrder.read (some raw)) ∧
    (∀ s, decodeParam (Json.Value.string s).print = .ok (.string s) ∧
      decodeParam (encodedParam (Json.Value.string s).print) = .ok (.string s)) ∧
    ∀ raw f, Json.parse raw = .error f →
      (∀ cs, Percent.decode raw.toList = .ok cs → ∃ f', Json.parseChars cs = .error f') →
      ∃ reason, decodeParam raw = .error (.malformed reason) := by
  refine ⟨fun raw v h => ?_, fun s => ?_, fun raw f => decodeParam_malformed⟩
  · have hvalue := jsonOf_eq_ok_iff.mpr ⟨v, h, rfl⟩
    have hraw := decodeParam_of_jsonOf hvalue
    have hencoded := decodeParam_encodedParam hvalue
    refine ⟨hraw, hencoded, fun P _ => ?_, fun P _ => ?_⟩
    · unfold Filter.read
      dsimp only
      rw [hraw, hencoded]
    · unfold SortOrder.read
      dsimp only
      rw [hraw, hencoded]
  · have hvalue := jsonOf_eq_ok_iff.mpr ⟨_, Json.parse_print_string s, rfl⟩
    exact ⟨decodeParam_of_jsonOf hvalue, decodeParam_encodedParam hvalue⟩

theorem encoding_keeps_pattern :
    ∃ v, decodeParam "\x7b\"value\":\"%ab%\"\x7d" = .ok v ∧
      decodeParam (encodedParam "\x7b\"value\":\"%ab%\"\x7d") = .ok v ∧
      ∃ reason, decodeParam "%5B" = .error (.malformed reason) := by
  obtain ⟨hkeeps, -, hmalformed⟩ := encoding_keeps_parameters
  have hparse : Json.parse "\x7b\"value\":\"%ab%\"\x7d" =
      .ok (.object [("value", .string "%ab%")]) := rfl
  obtain ⟨hraw, hencoded, -⟩ := hkeeps _ _ hparse
  have hdecode : Percent.decode "%5B".toList = .ok ['['] := rfl
  obtain ⟨f, hfault⟩ : ∃ f, Json.parse "%5B" = .error f := ⟨_, rfl⟩
  refine ⟨_, hraw, hencoded, hmalformed _ f hfault fun cs hcs => ?_⟩
  cases hdecode.symm.trans hcs
  exact ⟨_, rfl⟩

end AccountRegistry
