import AccountRegistry.Proofs.Sql.Conditions
import AccountRegistry.Proofs.Sql.Rendering

/-! # Templates of conditions

A condition is a template: a text with its values in the places where it mentions them. It is
rendered by numbering the places and binding the values in the same order, so that conditions of one
outline have one text.
-/

namespace AccountRegistry

/-! ## Outlines -/

namespace Condition

mutual

/-- A condition without its values; fields, operators and lengths of lists are left. -/
def blank : Condition → Condition
  | .compare f op _ => .compare f op .null
  | .oneOf f ds => .oneOf f (ds.map fun _ => .null)
  | .any cs => .any (blankAll cs)
  | .all cs => .all (blankAll cs)
  | .not c => .not c.blank
  | .always => .always
  | .never => .never

def blankAll : List Condition → List Condition
  | [] => []
  | c :: cs => c.blank :: blankAll cs

end

@[simp] theorem isEmpty_blankAll (cs : List Condition) : (blankAll cs).isEmpty = cs.isEmpty := by
  cases cs <;> rfl

mutual

theorem size_blank : ∀ c : Condition, c.blank.size = c.size
  | .any cs | .all cs => by simp only [blank, size, sizeAll_blankAll cs]
  | .not c => by simp only [blank, size, size_blank c]
  | .compare .. | .oneOf .. | .always | .never => by simp only [blank, size]

theorem sizeAll_blankAll : ∀ cs : List Condition, sizeAll (blankAll cs) = sizeAll cs
  | [] => rfl
  | c :: cs => by simp only [blankAll, sizeAll, size_blank c, sizeAll_blankAll cs]

end

mutual

theorem length_parameters_blank : ∀ c : Condition,
    c.blank.parameters.length = c.parameters.length
  | .compare f op d => by
    simp only [blank, parameters]
    split <;> rfl
  | .oneOf f ds => by simp only [blank, parameters, List.length_map]
  | .any cs | .all cs => by simp only [blank, parameters, length_parametersAll_blankAll cs]
  | .not c => by simp only [blank, parameters, length_parameters_blank c]
  | .always | .never => rfl

theorem length_parametersAll_blankAll : ∀ cs : List Condition,
    (parametersAll (blankAll cs)).length = (parametersAll cs).length
  | [] => rfl
  | c :: cs => by
    simp only [blankAll, parametersAll, List.length_append, length_parameters_blank c,
      length_parametersAll_blankAll cs]

end

mutual

/-- The text of a condition does not depend on its values, only on how many there are. -/
theorem sql_blank : ∀ (c : Condition) (next : Nat), c.blank.sql next = c.sql next
  | .compare f op d, next => by simp only [blank, sql]
  | .oneOf f ds, next => by simp only [blank, sql, List.isEmpty_map, List.length_map]
  | .any cs, next | .all cs, next => by
    simp only [blank, sql, isEmpty_blankAll, sqlAll_blankAll cs]
  | .not c, next => by simp only [blank, sql, sql_blank c]
  | .always, next | .never, next => rfl

theorem sqlAll_blankAll : ∀ (cs : List Condition) (next : Nat),
    sqlAll next (blankAll cs) = sqlAll next cs
  | [], next => rfl
  | c :: cs, next => by
    simp only [blankAll, sqlAll, sql_blank c, length_parameters_blank c, sqlAll_blankAll cs]

end

end Condition

namespace Query

/-- What is left of a query without the schema and the values that a caller puts in. -/
def outline (q : Query) : Query :=
  { q with schema := "", conditions := Condition.blankAll q.conditions }

theorem whereClause_outline (q : Query) : q.outline.whereClause = q.whereClause := by
  simp only [whereClause, outline, Condition.isEmpty_blankAll, Condition.sqlAll_blankAll]

theorem rowFrame_outline (q : Query) : q.outline.rowFrame = q.rowFrame := by
  rw [rowFrame, whereClause_outline]
  rfl

theorem countFrame_outline (q : Query) : q.outline.countFrame = q.countFrame := by
  rw [countFrame, whereClause_outline]
  rfl

theorem sizeAll_outline (q : Query) :
    Condition.sizeAll q.outline.conditions = Condition.sizeAll q.conditions :=
  Condition.sizeAll_blankAll q.conditions

/-- Queries of one outline have statements that differ in their schemas at most. -/
theorem statements_of_outline_eq {q other : Query} (ho : other.outline = q.outline)
    (hsize : Condition.sizeAll q.conditions ≤ maxConditionNodes)
    (hname : IsPlainName other.schema) :
    other.rowStatement = .ok ⟨q.rowFrame.fill other.schema, other.parameters⟩ ∧
      other.countStatement = .ok ⟨q.countFrame.fill other.schema, other.parameters⟩ := by
  have hrenderable : other.Renderable := by
    refine ⟨?_, hname⟩
    rw [← sizeAll_outline, ho, sizeAll_outline]
    exact hsize
  rw [← rowFrame_outline q, ← countFrame_outline q, ← ho, rowFrame_outline, countFrame_outline]
  exact ⟨rowStatement_eq_ok_iff.mpr ⟨hrenderable, rfl⟩,
    countStatement_eq_ok_iff.mpr ⟨hrenderable, rfl⟩⟩

end Query

namespace Sql

/-! ## Templates -/

/-- A part of a template: a text that stands as it is, or the place of a value. -/
inductive Piece
  | text (s : String)
  | value (d : Datum)

abbrev Template := List Piece

namespace Template

/-- The values of a template, from left to right. -/
def values : Template → List Datum
  | [] => []
  | .text _ :: t => values t
  | .value d :: t => d :: values t

/-- The text of a template that shows its values by number. -/
def numbered (next : Nat) : Template → String
  | [] => ""
  | .text s :: t => s ++ numbered next t
  | .value _ :: t => placeholder next ++ numbered (next + 1) t

/-- Templates with a text between them. -/
def separated (sep : String) : List Template → Template
  | [] => []
  | [t] => t
  | t :: u :: ts => t ++ .text sep :: separated sep (u :: ts)

/-- The texts of some templates, each numbered on from the one before it. -/
def numberedAll (next : Nat) : List Template → List String
  | [] => []
  | t :: ts => numbered next t :: numberedAll (next + (values t).length) ts

theorem values_append (t u : Template) : values (t ++ u) = values t ++ values u := by
  induction t with
  | nil => rfl
  | cons p t ih => cases p <;> simp [values, ih]

theorem numbered_append (next : Nat) (t u : Template) :
    numbered next (t ++ u) = numbered next t ++ numbered (next + (values t).length) u := by
  induction t generalizing next with
  | nil => simp [numbered, values]
  | cons p t ih =>
    cases p <;> simp [numbered, values, ih, String.append_assoc, Nat.add_assoc, Nat.add_comm 1]

theorem values_separated (sep : String) (ts : List Template) :
    values (separated sep ts) = ts.flatMap values := by
  fun_induction separated sep ts with
  | case1 => rfl
  | case2 t => simp
  | case3 t u ts ih => simp [values_append, values, ih]

theorem numbered_separated (sep : String) (ts : List Template) (next : Nat) :
    numbered next (separated sep ts) = joined sep (numberedAll next ts) := by
  fun_induction separated sep ts generalizing next with
  | case1 => rfl
  | case2 t => simp [numberedAll, joined]
  | case3 t u ts ih =>
    rw [numbered_append, numbered, ih]
    simp only [numberedAll, joined, String.intercalate_cons_cons, String.append_assoc]

theorem numberedAll_values (next : Nat) (ds : List Datum) :
    numberedAll next (ds.map fun d => [.value d]) =
      (List.range ds.length).map fun i => placeholder (next + i) := by
  induction ds generalizing next with
  | nil => rfl
  | cons d ds ih =>
    rw [List.map_cons, numberedAll, ih, List.length_cons, List.range_succ_eq_map]
    simp [numbered, values, Nat.add_assoc, Nat.add_comm 1, Function.comp_def]

end Template

open Template

mutual

/-- A condition with its values in the places where it mentions them; tests for null have none. -/
def template : Condition → Template
  | .compare f op d =>
    if op.takesValue then
      [.text "(", .text f.accessor, .text (" " ++ op.sql ++ " "), .value d, .text ")"]
    else [.text "(", .text f.accessor, .text (" " ++ op.sql), .text ")"]
  | .oneOf f ds =>
    if ds.isEmpty then [.text "FALSE"]
    else [.text "(", .text f.accessor, .text " IN ("] ++
      (separated ", " (ds.map fun d => [.value d]) ++ [.text "))"])
  | .any cs =>
    if cs.isEmpty then [.text "FALSE"]
    else [.text "("] ++ separated " OR " (templates cs) ++ [.text ")"]
  | .all cs =>
    if cs.isEmpty then [.text "TRUE"]
    else [.text "("] ++ separated " AND " (templates cs) ++ [.text ")"]
  | .not c => [.text "(NOT "] ++ template c ++ [.text ")"]
  | .always => [.text "TRUE"]
  | .never => [.text "FALSE"]

def templates : List Condition → List Template
  | [] => []
  | c :: cs => template c :: templates cs

end

mutual

theorem values_template : ∀ c : Condition, values (template c) = c.parameters
  | .compare f op d => by
    rw [template, Condition.parameters]
    split <;> rfl
  | .oneOf f [] | .any [] | .all [] => rfl
  | .oneOf f (d :: ds) => by
    simp [template, Condition.parameters, values_append, values_separated, values, List.flatMap_map]
  | .any (c :: cs) | .all (c :: cs) => by
    simp [template, Condition.parameters, values_append, values_separated, values,
      values_templates (c :: cs)]
  | .not c => by
    simp [template, Condition.parameters, values_append, values, values_template c]
  | .always | .never => rfl

theorem values_templates : ∀ cs : List Condition,
    (templates cs).flatMap values = Condition.parametersAll cs
  | [] => rfl
  | c :: cs => by
    rw [templates, List.flatMap_cons, values_template, values_templates, Condition.parametersAll]

end

mutual

/-- A condition is rendered by numbering the values of its template. -/
theorem numbered_template : ∀ (c : Condition) (next : Nat), numbered next (template c) = c.sql next
  | .compare f op d, next => by
    cases h : op.takesValue with
    | true => simp [compare_sql_of_takesValue f h, template, h, numbered, String.append_assoc]
    | false => simp [compare_sql_of_not_takesValue f h, template, h, numbered, String.append_assoc]
  | .oneOf f [], next | .any [], next | .all [], next => rfl
  | .oneOf f (d :: ds), next => by
    rw [oneOf_sql f (List.cons_ne_nil d ds), ← numberedAll_values, ← numbered_separated]
    simp only [template, List.isEmpty_cons, Bool.false_eq_true, if_false, List.cons_append,
      List.nil_append, numbered, numbered_append, String.append_empty, String.append_assoc]
    rfl
  | .any (c :: cs), next | .all (c :: cs), next => by
    rw [Condition.sql, ← numberedAll_templates, ← numbered_separated]
    simp [template, numbered_append, numbered, String.append_assoc]
  | .not c, next => by
    rw [Condition.sql, ← numbered_template]
    simp [template, numbered_append, numbered, String.append_assoc]
  | .always, next | .never, next => rfl

theorem numberedAll_templates : ∀ (cs : List Condition) (next : Nat),
    numberedAll next (templates cs) = Condition.sqlAll next cs
  | [], next => rfl
  | c :: cs, next => by
    rw [templates, numberedAll, numbered_template, values_template, numberedAll_templates,
      Condition.sqlAll]

end

/-- What a query puts behind its tables. -/
def whereTemplate (q : Query) : Template :=
  if q.conditions.isEmpty then [] else .text " WHERE " :: separated " AND " (templates q.conditions)

theorem values_whereTemplate (q : Query) : values (whereTemplate q) = q.parameters := by
  rw [whereTemplate, Query.parameters]
  split
  next h => rw [List.isEmpty_iff.mp h]; rfl
  next => rw [values, values_separated, values_templates]

theorem numbered_whereTemplate (q : Query) : numbered 1 (whereTemplate q) = q.whereClause := by
  rw [whereTemplate, Query.whereClause]
  split
  · rfl
  · rw [numbered, numbered_separated, numberedAll_templates]

end Sql

end AccountRegistry
