import AccountRegistry.Proofs.Sql.Template

/-! # Placeholders of statements

The placeholders in the text of a statement are numbered from one on without gaps, and each stands
where the condition mentions the value bound to it. The text is the same for all values, and the
schema is the only text of a caller in it.
-/

namespace AccountRegistry.Sql

open Template

/-! ## Marks in a text -/

/-- Each dollar sign with the digits behind it. -/
def marks : List Char → List String
  | [] => []
  | c :: cs => if c = '$' then .ofList (c :: cs.takeWhile Char.isDigit) :: marks cs else marks cs

/-- The placeholders in a text, from left to right. -/
def placeholders (s : String) : List String := marks s.toList

/-- A text has some placeholders, whatever stands behind it. -/
def Marks (s : String) (ms : List String) : Prop :=
  ∀ rest, marks (s.toList ++ rest) = ms ++ marks rest

theorem Marks.placeholders_eq {s : String} {ms : List String} (h : Marks s ms) :
    placeholders s = ms := by
  simpa [placeholders, marks] using h []

theorem Marks.append {s t : String} {ms ns : List String} (hs : Marks s ms) (ht : Marks t ns) :
    Marks (s ++ t) (ms ++ ns) := by
  intro rest
  rw [String.toList_append, List.append_assoc, hs, ht, List.append_assoc]

theorem marks_append_of_not_mem {cs : List Char} (h : '$' ∉ cs) (rest : List Char) :
    marks (cs ++ rest) = marks rest := by
  induction cs with
  | nil => rfl
  | cons c cs ih =>
    simp only [List.mem_cons, not_or] at h
    rw [List.cons_append, marks, if_neg (Ne.symm h.1), ih h.2]

theorem marks_plain {s : String} (h : '$' ∉ s.toList) : Marks s [] := marks_append_of_not_mem h

theorem dollar_not_mem_repr (n : Nat) : '$' ∉ n.repr.toList := fun h =>
  absurd (isDigit_of_mem_repr h) (by decide)

/-- The number of a placeholder ends where a text behind it starts without a digit. -/
theorem marks_placeholder (n : Nat) {s : String} (hs : s.toList.head?.any (!·.isDigit) = true)
    (h : '$' ∉ s.toList) : Marks (placeholder n ++ s) [placeholder n] := by
  intro rest
  have htext : (placeholder n).toList = '$' :: n.repr.toList := by
    rw [placeholder]
    exact String.toList_append
  have hdigits : (n.repr.toList ++ (s.toList ++ rest)).takeWhile Char.isDigit = n.repr.toList := by
    rw [List.takeWhile_append_of_pos fun d hd => isDigit_of_mem_repr hd]
    cases hcs : s.toList with
    | nil => simp [hcs] at hs
    | cons c cs =>
      rw [hcs, List.head?_cons, Option.any_some, Bool.not_eq_true'] at hs
      rw [List.cons_append, List.takeWhile_cons_of_neg (by simp [hs]), List.append_nil]
  rw [String.toList_append, htext, List.append_assoc, List.cons_append, marks, if_pos rfl, hdigits,
    marks_append_of_not_mem (dollar_not_mem_repr n), marks_append_of_not_mem h, ← htext,
    String.ofList_toList]
  rfl

/-- The placeholders of so many values, the first of which has some number. -/
def places (next n : Nat) : List String := (List.range' next n).map placeholder

theorem places_append (next m n : Nat) :
    places next m ++ places (next + m) n = places next (m + n) := by
  rw [places, places, places, ← List.map_append, List.range'_append_1]

/-- The values of a template are its only placeholders, and no text runs into one of them. -/
def Closed (t : Template) : Prop :=
  ∀ next, Marks (numbered next t) (places next (values t).length)

theorem Closed.append {t u : Template} (ht : Closed t) (hu : Closed u) : Closed (t ++ u) := by
  intro next
  rw [numbered_append, values_append, List.length_append, ← places_append]
  exact (ht next).append (hu _)

theorem closed_nil : Closed [] := fun _ => marks_plain (s := "") (by decide)

theorem closed_text {s : String} (h : '$' ∉ s.toList) : Closed [.text s] := by
  intro next
  rw [numbered, numbered, String.append_empty]
  exact marks_plain h

theorem closed_value (d : Datum) {s : String} (hs : s.toList.head?.any (!·.isDigit) = true)
    (h : '$' ∉ s.toList) : Closed [.value d, .text s] := by
  intro next
  rw [numbered, numbered, numbered, String.append_empty]
  exact marks_placeholder next hs h

theorem closed_separated {sep : String} (hsep : '$' ∉ sep.toList) {ts : List Template}
    (h : ∀ t ∈ ts, Closed t) : Closed (separated sep ts) := by
  fun_induction separated sep ts with
  | case1 => exact closed_nil
  | case2 t => exact h t (.head _)
  | case3 t u ts ih =>
    obtain ⟨ht, hts⟩ := List.forall_mem_cons.mp h
    exact ht.append ((closed_text hsep).append (ih hts))

theorem closed_places (d : Datum) (ds : List Datum) :
    Closed (separated ", " ((d :: ds).map fun d => [.value d]) ++ [.text "))"]) := by
  induction ds generalizing d with
  | nil => exact closed_value d (by decide) (by decide)
  | cons e ds ih => exact (closed_value d (s := ", ") (by decide) (by decide)).append (ih e)

theorem dollar_not_mem_accessor (f : Field) : '$' ∉ f.accessor.toList := by
  cases f <;> decide

theorem closed_comparison (op : Comparison) :
    Closed [.text (" " ++ op.sql ++ " ")] ∧ Closed [.text (" " ++ op.sql)] := by
  constructor <;> exact closed_text (by cases op <;> decide)

mutual

theorem closed_template : ∀ c : Condition, Closed (template c)
  | .compare f op d => by
    have hstart : Closed [.text "(", .text f.accessor] :=
      (closed_text (by decide)).append (closed_text (dollar_not_mem_accessor f))
    rw [template]
    split
    · exact hstart.append ((closed_comparison op).1.append (closed_value d (by decide) (by decide)))
    · exact hstart.append ((closed_comparison op).2.append (closed_text (by decide)))
  | .oneOf f [] | .any [] | .all [] => closed_text (by decide)
  | .oneOf f (d :: ds) =>
    ((closed_text (by decide)).append ((closed_text (dollar_not_mem_accessor f)).append
      (closed_text (by decide)))).append (closed_places d ds)
  | .any (c :: cs) =>
    ((closed_text (by decide)).append (closed_separated (by decide)
      (closed_templates (c :: cs)))).append (closed_text (by decide))
  | .all (c :: cs) =>
    ((closed_text (by decide)).append (closed_separated (by decide)
      (closed_templates (c :: cs)))).append (closed_text (by decide))
  | .not c =>
    ((closed_text (by decide)).append (closed_template c)).append (closed_text (by decide))
  | .always | .never => closed_text (by decide)

theorem closed_templates : ∀ (cs : List Condition), ∀ t ∈ templates cs, Closed t
  | [] => by simp [templates]
  | c :: cs => List.forall_mem_cons.mpr ⟨closed_template c, closed_templates cs⟩

end

theorem marks_whereClause (q : Query) : Marks q.whereClause (places 1 q.parameters.length) := by
  have hclosed : Closed (whereTemplate q) := by
    rw [whereTemplate]
    split
    · exact closed_nil
    · exact (closed_text (by decide)).append
        (closed_separated (by decide) (closed_templates q.conditions))
  rw [← numbered_whereTemplate, ← values_whereTemplate]
  exact hclosed 1

/-! ## Statements -/

theorem dollar_not_mem_of_isPlainName {s : String} (h : IsPlainName s) : '$' ∉ s.toList := by
  intro hmem
  rcases h.2 '$' hmem with hc | hc <;> exact absurd hc (by decide)

theorem dollar_not_mem_joined {sep : String} (hsep : '$' ∉ sep.toList) {texts : List String}
    (h : ∀ t ∈ texts, '$' ∉ t.toList) : '$' ∉ (joined sep texts).toList := by
  induction texts with
  | nil => simp [joined]
  | cons t texts ih =>
    obtain ⟨ht, htexts⟩ := List.forall_mem_cons.mp h
    cases texts with
    | nil => simpa [joined] using ht
    | cons u texts =>
      rw [joined] at ih ⊢
      rw [String.intercalate_cons_cons]
      simp only [String.toList_append, List.mem_append, not_or]
      exact ⟨⟨ht, hsep⟩, ih htexts⟩

theorem dollar_not_mem_sortClause (s : SortClause) : '$' ∉ s.sql.toList := by
  have hdirection : '$' ∉ s.direction.sql.toList := by cases s.direction <;> decide
  have hnulls : '$' ∉ (if s.nullsLast then " NULLS LAST" else "").toList := by
    cases s.nullsLast <;> decide
  have htext : s.sql = s.field.accessor ++ " " ++ s.direction.sql ++
      if s.nullsLast then " NULLS LAST" else "" := rfl
  rw [htext]
  simp only [String.toList_append, List.mem_append, not_or]
  exact ⟨⟨⟨dollar_not_mem_accessor s.field, by decide⟩, hdirection⟩, hnulls⟩

theorem dollar_not_mem_orderClause (q : Query) : '$' ∉ q.orderClause.toList := by
  rw [Query.orderClause]
  refine dollar_not_mem_joined (by decide) fun t ht => ?_
  rcases List.mem_append.mp ht with ht | ht
  · obtain ⟨s, -, rfl⟩ := List.mem_map.mp ht
    exact dollar_not_mem_sortClause s
  · split at ht
    · cases ht
    · rw [List.mem_singleton.mp ht]
      decide

theorem dollar_not_mem_windowClause (w : Window) : '$' ∉ (Query.windowClause w).toList := by
  have hnumber : ∀ (keyword : String) (n : Nat), '$' ∉ keyword.toList →
      '$' ∉ (keyword ++ n.repr).toList := by
    intro keyword n h
    rw [String.toList_append, List.mem_append, not_or]
    exact ⟨h, dollar_not_mem_repr n⟩
  rw [Query.windowClause, String.toList_append, List.mem_append, not_or]
  constructor
  · cases w.limit with
    | none => decide
    | some n => exact hnumber " LIMIT " _ (by decide)
  · split
    · decide
    · exact hnumber " OFFSET " _ (by decide)

/-- The marks of a literal, which is known by its characters without decoding it. -/
theorem marks_ofList {cs : List Char} (h : '$' ∉ cs) : Marks (.ofList cs) [] :=
  marks_plain (by rwa [String.toList_ofList])

theorem marks_columns : Marks Query.columns [] := by
  unfold Query.columns
  exact (marks_ofList (by decide)).append (marks_ofList (by decide))

theorem marks_fill {f : Frame} {name : String} {ms : List String} (hname : IsPlainName name)
    (hbefore : Marks f.before []) (hbetween : Marks f.between []) (hafter : Marks f.after ms) :
    Marks (f.fill name) ms := by
  have hname := marks_plain (dollar_not_mem_of_isPlainName hname)
  exact (((hbefore.append hname).append hbetween).append hname).append hafter

theorem marks_tablesBetween : Marks Query.tablesBetween [] := marks_ofList (by decide)

theorem marks_tablesEnd_whereClause (q : Query) :
    Marks (Query.tablesEnd ++ q.whereClause) (places 1 q.parameters.length) :=
  (marks_ofList (by decide)).append (marks_whereClause q)

theorem marks_rowFrame {q : Query} {name : String} (hname : IsPlainName name) :
    Marks (q.rowFrame.fill name) (places 1 q.parameters.length) := by
  have hbefore := ((marks_plain (s := "SELECT ") (by decide)).append marks_columns).append
    (marks_plain (s := " FROM \"") (by decide))
  have hafter := (((marks_tablesEnd_whereClause q).append
    (marks_plain (s := " ORDER BY ") (by decide))).append
    (marks_plain (dollar_not_mem_orderClause q))).append
    (marks_plain (dollar_not_mem_windowClause q.window))
  simp only [List.append_nil] at hbefore hafter
  exact marks_fill (f := q.rowFrame) hname hbefore marks_tablesBetween hafter

theorem marks_countFrame {q : Query} {name : String} (hname : IsPlainName name) :
    Marks (q.countFrame.fill name) (places 1 q.parameters.length) :=
  marks_fill (f := q.countFrame) hname (marks_ofList (by decide)) marks_tablesBetween
    (marks_tablesEnd_whereClause q)

/-- The statement has no placeholders but the numbers of its parameters, each once and in order, and
its parameters are the values of a condition as the condition mentions them. -/
structure LinesUp (q : Query) (st : Statement) : Prop where
  placeholders_eq : placeholders st.sql = places 1 st.parameters.length
  parameters_eq : st.parameters = values (whereTemplate q)

/-- Values reach the statements of a query as parameters only, each under the number that stands in
its place; the rest of the text is fixed by the outline of the query, but for its schema. -/
theorem statements_hide_values {q : Query} {row : Statement} (h : q.rowStatement = .ok row) :
    ∃ count, q.countStatement = .ok count ∧
      (LinesUp q row ∧ LinesUp q count ∧ row.parameters = count.parameters ∧
        ∃ before after beforeCount,
          row.sql = before ++ numbered 1 (whereTemplate q) ++ " ORDER BY " ++ after ∧
          count.sql = beforeCount ++ numbered 1 (whereTemplate q)) ∧
      (∀ other : Query, other.outline = q.outline → other.schema = q.schema →
        ∃ row' count', other.rowStatement = .ok row' ∧ other.countStatement = .ok count' ∧
          row'.sql = row.sql ∧ count'.sql = count.sql) ∧
      IsPlainName q.schema ∧
      ∃ rowFrame countFrame : Frame, ∀ other : Query, other.outline = q.outline →
        IsPlainName other.schema →
          other.rowStatement = .ok ⟨rowFrame.fill other.schema, other.parameters⟩ ∧
          other.countStatement = .ok ⟨countFrame.fill other.schema, other.parameters⟩ := by
  obtain ⟨⟨hsize, hname⟩, rfl⟩ := Query.rowStatement_eq_ok_iff.mp h
  have hframes (other : Query) (ho : other.outline = q.outline) :=
    Query.statements_of_outline_eq ho hsize
  refine ⟨_, Query.countStatement_eq_ok_iff.mpr ⟨⟨hsize, hname⟩, rfl⟩, ⟨?_, ?_, rfl, ?_⟩, ?_, hname,
    q.rowFrame, q.countFrame, hframes⟩
  · exact ⟨(marks_rowFrame hname).placeholders_eq, (values_whereTemplate q).symm⟩
  · exact ⟨(marks_countFrame hname).placeholders_eq, (values_whereTemplate q).symm⟩
  · rw [numbered_whereTemplate]
    refine ⟨q.rowFrame.before ++ q.schema ++ Query.tablesBetween ++ q.schema ++ Query.tablesEnd,
      q.orderClause ++ Query.windowClause q.window,
      q.countFrame.before ++ q.schema ++ Query.tablesBetween ++ q.schema ++ Query.tablesEnd, ?_, ?_⟩
    · simp only [Frame.fill, Query.rowFrame, String.append_assoc]
    · simp only [Frame.fill, Query.countFrame, String.append_assoc]
  · intro other ho hschema
    obtain ⟨hrow, hcount⟩ := hframes other ho (hschema ▸ hname)
    exact ⟨_, _, hrow, hcount, by rw [hschema], by rw [hschema]⟩

/-- Values that look like parts of a statement, under groups and a negation. -/
def hostileQuery : Query where
  schema := "bank_1"
  conditions := [
    .not (.any [.compare .companyName .ilike (.text "') OR $9 --"), .compare .kind .isNull .null,
      .oneOf .currency [.text "978", .text "FALSE"], .any []]),
    .compare .archived .eq (.bool false)]
  order := [.ofField .modified .desc]
  window := ⟨some 10, 5⟩

/-- The same query with other values. -/
def harmlessQuery : Query :=
  { hostileQuery with
    conditions := [
      .not (.any [.compare .companyName .ilike (.text "acme"), .compare .kind .isNull (.bool true),
        .oneOf .currency [.text "840", .null], .any []]),
      .compare .archived .eq (.bool true)] }

theorem hostile_values_are_hidden : ∃ row row' : Statement,
    hostileQuery.rowStatement = .ok row ∧ placeholders row.sql = ["$1", "$2", "$3", "$4"] ∧
    row.parameters = [.text "') OR $9 --", .text "978", .text "FALSE", .bool false] ∧
    harmlessQuery.outline = hostileQuery.outline ∧
    harmlessQuery.rowStatement = .ok row' ∧ row'.sql = row.sql := by
  obtain ⟨row, hrow⟩ : ∃ row, hostileQuery.rowStatement = .ok row := ⟨_, rfl⟩
  obtain ⟨_, -, ⟨hline, -⟩, hsame, -⟩ := statements_hide_values hrow
  have houtline : harmlessQuery.outline = hostileQuery.outline := rfl
  obtain ⟨row', _, hrow', -, htext, -⟩ := hsame harmlessQuery houtline rfl
  have hparams : row.parameters =
      [.text "') OR $9 --", .text "978", .text "FALSE", .bool false] := hline.parameters_eq
  have hplaces := hline.placeholders_eq
  rw [hparams] at hplaces
  exact ⟨row, row', hrow, hplaces, hparams, houtline, hrow', htext⟩

end AccountRegistry.Sql
