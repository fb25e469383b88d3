import AccountRegistry.Proofs.Result
import AccountRegistry.Proofs.Text.LowerCase
import AccountRegistry.Query.Property

/-! # Names

A value is found by its name where no two names are the same. The name of an operator may be in
either letter case of ASCII. Lowering it also makes a Kelvin sign the letter `k`, so the operators
that match patterns are found by names that hold this sign; no other text finds an operator.
-/

namespace AccountRegistry

section

variable {α : Type} {all : List α} {name : α → String} (hall : ∀ x, x ∈ all)
  (hname : Function.Injective name)

include hall hname

theorem find?_name_eq_some_iff {s : String} {x : α} :
    (all.find? fun y => name y == s) = some x ↔ name x = s := by
  constructor
  · intro h
    simpa using List.find?_some h
  · rintro rfl
    cases hfind : all.find? fun y => name y == name x with
    | none => exact absurd (beq_self_eq_true (name x)) (List.find?_eq_none.mp hfind x (hall x))
    | some y =>
      have hxy : name y = name x := by simpa using List.find?_some hfind
      rw [hname hxy]

theorem resolveProperty_eq_ok_iff {s : String} {p : α} :
    resolveProperty all name s = .ok p ↔ Text.lower s = name p := by
  rw [eq_comm (a := Text.lower s), ← find?_name_eq_some_iff hall hname, resolveProperty]
  cases all.find? fun q => name q == Text.lower s with
  | none => simp
  | some q => simp

end

/-! ## Types of accounts -/

namespace AccountType

theorem mem_all (t : AccountType) : t ∈ all := by
  cases t <;> decide

theorem name_inj : Function.Injective name := fun t t' => by
  cases t <;> cases t' <;> decide

theorem read_eq_ok_iff {s : String} {t : AccountType} : read s = .ok t ↔ t.name = s := by
  rw [← find?_name_eq_some_iff mem_all name_inj, read]
  cases all.find? fun u => u.name == s with
  | none => simp
  | some u => simp

end AccountType

/-! ## Operators -/

namespace Operator

theorem mem_all (op : Operator) : op ∈ all := by
  cases op <;> decide

theorem name_inj : Function.Injective name := fun op op' => by
  cases op <;> cases op' <;> decide

theorem isAscii_name (op : Operator) : Text.IsAscii op.name := by
  cases op <;> decide

/-- Operators are found as properties are, with an error of their own. -/
theorem resolve_eq (s : String) :
    resolve s = (resolveProperty all name s).mapError fun _ => .unknownOperator s := by
  unfold resolve resolveProperty
  dsimp only
  cases all.find? fun op => op.name == Text.lower s <;> rfl

theorem resolve_eq_ok_iff {s : String} {op : Operator} :
    resolve s = .ok op ↔ Text.lower s = op.name := by
  rw [resolve_eq, mapError_eq_ok_iff, resolveProperty_eq_ok_iff mem_all name_inj]

theorem resolve_eq_error_iff {s : String} {e : QueryError} :
    resolve s = .error e ↔ e = .unknownOperator s ∧ ∀ op, resolve s ≠ .ok op := by
  unfold resolve
  dsimp only
  split
  · exact iff_of_false nofun fun h => h.2 _ rfl
  · rw [Except.error.injEq, eq_comm]
    exact (and_iff_left fun _ => nofun).symm

/-- An operator is found by the texts whose lower case in ASCII is its name. That ignores the case
of the letters of ASCII and nothing else, unless a Kelvin sign stands for a `k` of the name. All
other texts are refused and named as they are. -/
theorem names_ignore_case (s : String) :
    (∀ op : Operator, resolve s = .ok op ↔ s.map Text.asciiLower = op.name) ∧
    (∀ op : Operator, '\u212A' ∉ s.toList ∨ 'k' ∉ op.name.toList →
      (resolve s = .ok op ↔ s.map Char.toLower = op.name)) ∧
    (resolve s = .error (.unknownOperator s) ↔
      ∀ op : Operator, s.map Text.asciiLower ≠ op.name) := by
  have hexact (op : Operator) : resolve s = .ok op ↔ s.map Text.asciiLower = op.name := by
    rw [resolve_eq_ok_iff, Text.lower_eq_iff op.isAscii_name]
  refine ⟨hexact, fun op hk => ?_, ?_⟩
  · rw [resolve_eq_ok_iff, Text.lower_eq_iff_map op.isAscii_name hk]
  · rw [resolve_eq_error_iff, and_iff_right rfl]
    exact forall_congr' fun op => not_congr (hexact op)

theorem capitals_are_found :
    ('\u212A' ∉ "Not_ILIKE".toList ∧ resolve "Not_ILIKE" = .ok .notIlike) ∧
      ('k' ∉ Operator.isIn.name.toList ∧ resolve "\u212Ain" ≠ .ok .isIn) := by
  have hplain : '\u212A' ∉ "Not_ILIKE".toList := by decide
  have hname : 'k' ∉ Operator.isIn.name.toList := by decide
  refine ⟨⟨hplain, ?_⟩, hname, fun h => ?_⟩
  · exact ((names_ignore_case _).2.1 _ (.inl hplain)).mpr (by decide +kernel)
  · exact absurd (((names_ignore_case _).2.1 _ (.inr hname)).mp h) (by decide +kernel)

/-- A Kelvin sign is no letter of ASCII, but an operator is found by a text with one. -/
theorem kelvin_sign_is_found :
    resolve "li\u212Ae" = .ok .like ∧ "li\u212Ae".map Char.toLower ≠ Operator.like.name := by
  decide +kernel

end Operator

end AccountRegistry
