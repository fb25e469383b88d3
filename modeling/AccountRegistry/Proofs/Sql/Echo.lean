import AccountRegistry.Proofs.Sql.Rendering
import AccountRegistry.Proofs.Time.Clock

/-! # Statements with their values

A statement can be logged with its values if all of them have texts. Only moments may have none.
-/

namespace AccountRegistry

/-- The value has a text if it is a moment. -/
def Datum.Writable : Datum → Prop
  | .timestamp t => t.Writable
  | _ => True

instance Datum.decidableWritable : ∀ d : Datum, Decidable d.Writable
  | .timestamp t => inferInstanceAs (Decidable t.Writable)
  | .text _ | .uuid _ | .bool _ | .null => .isTrue trivial

theorem Datum.exists_shown_iff {d : Datum} : (∃ s, d.shown = .ok s) ↔ d.Writable := by
  cases d with
  | timestamp t => exact Timestamp.exists_text_iff
  | _ => exact iff_of_true ⟨_, rfl⟩ trivial

theorem exists_shownFrom_iff {ds : List Datum} (n : Nat) :
    (∃ s, shownFrom n ds = .ok s) ↔ ∀ d ∈ ds, d.Writable := by
  induction ds generalizing n with
  | nil => exact iff_of_true ⟨_, rfl⟩ nofun
  | cons d ds ih =>
    rw [List.forall_mem_cons, ← Datum.exists_shown_iff, ← ih (n + 1)]
    simp only [shownFrom, bind_eq_ok_iff]
    constructor
    · rintro ⟨_, value, hvalue, rest, hrest, -⟩
      exact ⟨⟨value, hvalue⟩, rest, hrest⟩
    · rintro ⟨⟨value, hvalue⟩, rest, hrest⟩
      exact ⟨_, value, hvalue, rest, hrest, rfl⟩

theorem Statement.exists_shown_iff {st : Statement} :
    (∃ s, st.shown = .ok s) ↔ ∀ d ∈ st.parameters, d.Writable := by
  rw [← exists_shownFrom_iff 1]
  simp only [shown, bind_eq_ok_iff]
  constructor
  · rintro ⟨_, rest, hrest, -⟩
    exact ⟨rest, hrest⟩
  · rintro ⟨rest, hrest⟩
    exact ⟨_, rest, hrest, rfl⟩

namespace Query

variable {q : Query}

/-- All values that the statements of a query are sent with have texts. -/
def Writable (q : Query) : Prop := ∀ d ∈ q.parameters, d.Writable

/-- Nothing but its values decides whether a statement can be logged. -/
theorem exists_shown_of_parameters {st : Statement} (h : st.parameters = q.parameters) :
    (∃ s, st.shown = .ok s) ↔ q.Writable := by
  rw [Statement.exists_shown_iff, h, Writable]

/-- The schema and the window of a query are of no matter to its parameters. -/
theorem exists_shown_iff {row : Statement} (h : q.rowStatement = .ok row) :
    (∃ s, row.shown = .ok s) ↔ q.Writable :=
  exists_shown_of_parameters (congrArg Statement.parameters (rowStatement_eq_ok_iff.mp h).2)

theorem exists_shown_count_iff {count : Statement} (h : q.countStatement = .ok count) :
    (∃ s, count.shown = .ok s) ↔ q.Writable :=
  exists_shown_of_parameters (congrArg Statement.parameters (countStatement_eq_ok_iff.mp h).2)

end Query

end AccountRegistry
