import AccountRegistry.Proofs.Result
import AccountRegistry.Query.Statement
import Mathlib.Data.List.Basic

/-! # Rendering of queries

A query has statements exactly if it has few enough nodes and its schema is a plain name. The name
stands twice in the text of a statement, and the rest of the text is a frame around it.
-/

namespace AccountRegistry

/-- A name of letters, digits and underscores of ASCII. -/
def IsPlainName (s : String) : Prop := s ≠ "" ∧ ∀ c ∈ s.toList, c.isAlphanum = true ∨ c = '_'

theorem quoteIdentifier_eq_ok_iff {name t : String} :
    quoteIdentifier name = .ok t ↔ IsPlainName name ∧ t = "\"" ++ name ++ "\"" := by
  have hchars : name.toList.all isIdentifierChar = true ↔
      ∀ c ∈ name.toList, c.isAlphanum = true ∨ c = '_' := by
    simp only [List.all_eq_true, isIdentifierChar, Bool.or_eq_true, beq_iff_eq]
  rw [quoteIdentifier, IsPlainName, ← hchars]
  split_ifs with hempty hall
  · simp [String.isEmpty_iff.mp hempty]
  · rw [String.isEmpty_iff] at hempty
    simp [hempty, hall, eq_comm]
  · simp [hall]

/-- A text with two places for a name. -/
structure Frame where
  before : String
  between : String
  after : String

def Frame.fill (f : Frame) (name : String) : String :=
  f.before ++ name ++ f.between ++ name ++ f.after

namespace Query

variable {q : Query} {st : Statement}

def tablesBetween : String := "\".\"accounts\" AS a INNER JOIN \""

def tablesEnd : String := "\".\"companies\" AS c ON c.id = a.company_id"

def rowFrame (q : Query) : Frame where
  before := "SELECT " ++ columns ++ " FROM \""
  between := tablesBetween
  after := tablesEnd ++ q.whereClause ++ " ORDER BY " ++ q.orderClause ++ windowClause q.window

def countFrame (q : Query) : Frame where
  before := "SELECT COUNT(*) AS total FROM \""
  between := tablesBetween
  after := tablesEnd ++ q.whereClause

/-- The query is small enough and its schema needs no escape. -/
def Renderable (q : Query) : Prop :=
  Condition.sizeAll q.conditions ≤ maxConditionNodes ∧ IsPlainName q.schema

theorem checkSize_eq_ok_iff {u : Unit} :
    q.checkSize = .ok u ↔ Condition.sizeAll q.conditions ≤ maxConditionNodes := by
  simp only [checkSize]
  split <;> simp_all

theorem fromClause_eq_ok_iff {t : String} :
    q.fromClause = .ok t ↔ IsPlainName q.schema ∧
      t = "\"" ++ q.schema ++ tablesBetween ++ q.schema ++ tablesEnd := by
  have htext : "\"" ++ q.schema ++ "\"" ++ ".\"accounts\" AS a INNER JOIN " ++
      ("\"" ++ q.schema ++ "\"") ++ ".\"companies\" AS c " ++ "ON c.id = a.company_id" =
      "\"" ++ q.schema ++ tablesBetween ++ q.schema ++ tablesEnd := by
    rw [show tablesBetween = "\"" ++ (".\"accounts\" AS a INNER JOIN " ++ "\"") from rfl,
      show tablesEnd = "\"" ++ (".\"companies\" AS c " ++ "ON c.id = a.company_id") from rfl]
    simp only [String.append_assoc]
  rw [fromClause, bind_eq_ok_iff, ← htext]
  simp only [quoteIdentifier_eq_ok_iff]
  constructor
  · rintro ⟨_, ⟨hname, rfl⟩, h⟩
    exact ⟨hname, (Except.ok.inj h).symm⟩
  · rintro ⟨hname, rfl⟩
    exact ⟨_, ⟨hname, rfl⟩, rfl⟩

/-- Both statements check the size, name the tables and put them into some text. -/
theorem checked_eq_ok_iff (text : String → String) :
    (do q.checkSize
        let tables ← q.fromClause
        return ⟨text tables, q.parameters⟩) = Except.ok st ↔
      q.Renderable ∧
        st = ⟨text ("\"" ++ q.schema ++ tablesBetween ++ q.schema ++ tablesEnd), q.parameters⟩ := by
  rw [bind_eq_ok_iff, Renderable]
  simp only [checkSize_eq_ok_iff, bind_eq_ok_iff, fromClause_eq_ok_iff]
  constructor
  · rintro ⟨_, hsize, _, ⟨hname, rfl⟩, h⟩
    exact ⟨⟨hsize, hname⟩, (Except.ok.inj h).symm⟩
  · rintro ⟨⟨hsize, hname⟩, rfl⟩
    exact ⟨(), hsize, _, ⟨hname, rfl⟩, rfl⟩

theorem rowStatement_eq_ok_iff :
    q.rowStatement = .ok st ↔ q.Renderable ∧ st = ⟨q.rowFrame.fill q.schema, q.parameters⟩ := by
  have htext : "SELECT " ++ columns ++ " FROM " ++
      ("\"" ++ q.schema ++ tablesBetween ++ q.schema ++ tablesEnd) ++ q.whereClause ++
      " ORDER BY " ++ q.orderClause ++ windowClause q.window = q.rowFrame.fill q.schema := by
    rw [Frame.fill, rowFrame, show " FROM \"" = " FROM " ++ "\"" from rfl]
    simp only [String.append_assoc]
  rw [← htext]
  exact checked_eq_ok_iff fun tables => "SELECT " ++ columns ++ " FROM " ++ tables ++
    q.whereClause ++ " ORDER BY " ++ q.orderClause ++ windowClause q.window

theorem countStatement_eq_ok_iff :
    q.countStatement = .ok st ↔ q.Renderable ∧ st = ⟨q.countFrame.fill q.schema, q.parameters⟩ := by
  have htext : "SELECT COUNT(*) AS total FROM " ++
      ("\"" ++ q.schema ++ tablesBetween ++ q.schema ++ tablesEnd) ++ q.whereClause =
      q.countFrame.fill q.schema := by
    rw [Frame.fill, countFrame, show "SELECT COUNT(*) AS total FROM \"" =
      "SELECT COUNT(*) AS total FROM " ++ "\"" from rfl]
    simp only [String.append_assoc]
  rw [← htext]
  exact checked_eq_ok_iff fun tables => "SELECT COUNT(*) AS total FROM " ++ tables ++ q.whereClause

end Query

end AccountRegistry
