import AccountRegistry.Proofs.Shape.Written
import AccountRegistry.Proofs.Time.Written
import AccountRegistry.Proofs.Uuid

/-! # Written accounts

Every part of an account is read back from its text, so that accounts are read back from the values
that are written for them.
-/

namespace AccountRegistry

theorem AccountType.choiceOf_name (t : AccountType) : choiceOf all name t.name = .ok t := by
  cases t <;> rfl

theorem CurrencyCode.read_eq_ok_iff {s : String} {c : CurrencyCode} :
    read s = .ok c ↔ c.text = s := by
  rw [read, dite_eq_ok_iff]
  constructor
  · rintro ⟨_, rfl⟩
    rfl
  · rintro rfl
    exact ⟨c.valid, rfl⟩

theorem AccountNumber.read_eq_ok_iff {s : String} {n : AccountNumber} :
    read s = .ok n ↔ n.text = s := by
  rw [read, dite_eq_ok_iff]
  constructor
  · rintro ⟨_, rfl⟩
    rfl
  · rintro rfl
    exact ⟨n.valid, rfl⟩

theorem CurrencyCode.read_text (c : CurrencyCode) : read c.text = .ok c := read_eq_ok_iff.mpr rfl

theorem AccountNumber.read_text (n : AccountNumber) : read n.text = .ok n := read_eq_ok_iff.mpr rfl

theorem withMessage_eq_ok_iff {ε α : Type} {message : ε → String} {r : Except ε α} {x : α} :
    withMessage message r = .ok x ↔ r = .ok x :=
  mapError_eq_ok_iff

variable {depth : Nat}

namespace Shape

variable {α : Type} {x : α}

theorem restores_string {expecting : String} {read : String → Except String α} {write : α → String}
    (h : read (write x) = .ok x) :
    (Shape.string expecting read fun y => .ok (write y)).Restores depth x := by
  intro text htext
  cases htext
  exact h

theorem restores_text (s : String) : Shape.text.Restores depth s := by
  intro text htext
  cases htext
  rfl

/-- A text that is checked when it is read is read back if it passes. -/
theorem restores_refine {read : String → Except String α} {write : α → Except String String}
    (h : ∀ s, write x = .ok s → read s = .ok x) :
    (Shape.refine .text read write).Restores depth x :=
  fun s hs => ⟨restores_text s, h s hs⟩

end Shape

theorem Uuid.restores (u : Uuid) : shape.Restores depth u :=
  Shape.restores_string (withMessage_eq_ok_iff.mpr u.read_text)

theorem CurrencyCode.restores (c : CurrencyCode) : shape.Restores depth c := by
  apply Shape.restores_refine
  rintro _ ⟨⟩
  exact withMessage_eq_ok_iff.mpr c.read_text

theorem AccountNumber.restores (n : AccountNumber) : shape.Restores depth n := by
  apply Shape.restores_refine
  rintro _ ⟨⟩
  exact withMessage_eq_ok_iff.mpr n.read_text

theorem Timestamp.restores (t : Timestamp) : shape.Restores depth t :=
  Shape.restores_refine fun _ h =>
    withMessage_eq_ok_iff.mpr (ofText_of_text (withMessage_eq_ok_iff.mp h))

/-! ## Records -/

namespace Members.Restores

variable {α β σ : Type} {key : String} {s : Shape α} {rest : Members β σ} {x : α} {xs : β}

theorem required (hx : s.Restores depth x) (hxs : rest.Restores depth xs) :
    (Members.required key s rest).Restores depth (x, xs) := ⟨hx, hxs⟩

theorem default {absent : α} (hx : s.Restores depth x) (hxs : rest.Restores depth xs) :
    (Members.default key s absent rest).Restores depth (x, xs) := ⟨hx, hxs⟩

theorem omitted {x : Option α} (hx : (Shape.option s).Restores depth x)
    (hxs : rest.Restores depth xs) : (Members.omitted key s rest).Restores depth (x, xs) := by
  refine ⟨?_, hxs⟩
  cases x with
  | none => exact rfl
  | some x => exact hx

end Members.Restores

theorem Shape.restores_option_text (s : Option String) :
    (Shape.option .text).Restores depth s := by
  rintro s rfl
  refine ⟨restores_text s, ?_⟩
  rintro _ ⟨⟩ _ ⟨⟩

theorem BankInfo.restores (h : 1 < depth) (b : BankInfo) : shape.Restores depth b := by
  rintro _ ⟨⟩
  refine ⟨⟨h, by decide, ?_⟩, rfl⟩
  exact .required (Shape.restores_text _) <|
    .omitted (Shape.restores_option_text _) <|
    .omitted (Shape.restores_option_text _) trivial

/-- Bank details are written as an object, so that they are not taken for missing. -/
theorem BankInfo.restores_option (h : 1 < depth) (b : Option BankInfo) :
    (Shape.option shape).Restores depth b := by
  rintro b rfl
  refine ⟨b.restores h, fun v hv r => ?_⟩
  obtain ⟨x, -, hv⟩ := bind_eq_ok_iff.mp hv
  obtain ⟨entries, -, rfl⟩ := map_eq_ok_iff.mp hv
  nofun

theorem Account.restores (h : 2 < depth) (a : Account) : shape.Restores depth a := by
  rintro _ ⟨⟩
  refine ⟨⟨by omega, by decide, ?_⟩, rfl⟩
  exact .required a.id.restores <|
    .required a.kind.choiceOf_name <|
    .required a.currency.restores <|
    .required a.number.restores <|
    .required a.companyId.restores <|
    .required (Shape.restores_text _) <|
    .default (BankInfo.restores_option (by omega) _) <|
    .default trivial <|
    .required a.created.restores <|
    .required a.modified.restores trivial

end AccountRegistry
