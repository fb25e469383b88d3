import AccountRegistry.Proofs.Sql.Echo
import AccountRegistry.Relational.Store

/-! # Pages in one transaction

A session sends the commands of a plan in order and stops at the first that is refused. The plan of
a page read is a transaction around both statements of the page; that a transaction without its end
is rolled back is up to the connection and no command of the session. Both statements are logged
first, and a store that echoes values crashes there if one of them has no text.
-/

namespace AccountRegistry

/-- A command with whatever type of reply. -/
abbrev AnyCommand := Σ α : Type, Command α

/-- The commands of a plan as they reach the server. -/
def sentAll (plan : List AnyCommand) : List Sent := plan.map fun c => c.2.sent

/-- The server accepts a plan after all that it was sent before. -/
def Server.Accepts (server : Server) : List Sent → List AnyCommand → Prop
  | _, [] => True
  | before, ⟨_, c⟩ :: plan =>
    (∃ x, server.reply before c = .ok x) ∧ server.Accepts (before ++ [c.sent]) plan

/-! ## Sessions with a plan -/

/-- What comes of a session with a plan: its commands are sent in order up to the first that is
refused, which is the failure of the session. -/
structure Conducts {ε α : Type} (server : Server) (blame : ConnectionError → ε)
    (plan : List AnyCommand) (before : List Sent) (outcome : Except ε α × List Sent) : Prop where
  sent_prefix : ∃ log, outcome.2 = before ++ log ∧ log <+: sentAll plan
  sent_all : server.Accepts before plan → outcome.2 = before ++ sentAll plan
  refused : ∀ done c rest e, plan = done ++ c :: rest → server.Accepts before done →
    server.reply (before ++ sentAll done) c.2 = .error e →
      outcome = (.error (blame e), before ++ sentAll done ++ [c.2.sent])

namespace Session

variable {ε α β : Type} {server : Server} {blame : ConnectionError → ε} {c : Command α}
  {f : α → Session ε β} {before : List Sent} {plan : List AnyCommand}

theorem run_send :
    (send server blame c >>= f).run.run before =
      ExceptT.bindCont f ((server.reply before c).mapError blame) (before ++ [c.sent]) :=
  rfl

theorem run_send_of_ok {x : α} (h : server.reply before c = .ok x) :
    (send server blame c >>= f).run.run before = (f x).run.run (before ++ [c.sent]) := by
  rw [run_send, h]
  rfl

theorem run_send_of_error {e : ConnectionError} (h : server.reply before c = .error e) :
    (send server blame c >>= f).run.run before = (.error (blame e), before ++ [c.sent]) := by
  rw [run_send, h]
  rfl

theorem conducts_nil (r : Except ε α) : Conducts server blame [] before (r, before) where
  sent_prefix := ⟨[], by simp, List.prefix_refl _⟩
  sent_all _ := by simp [sentAll]
  refused done c rest e h := by simp at h

/-- The first command is refused, and none is sent after it. -/
theorem conducts_of_error {e : ConnectionError} (h : server.reply before c = .error e) :
    Conducts server blame (⟨α, c⟩ :: plan) before
      ((.error (blame e) : Except ε β), before ++ [c.sent]) where
  sent_prefix := ⟨[c.sent], rfl, by simp [sentAll]⟩
  sent_all := by
    rintro ⟨⟨x, hx⟩, -⟩
    rw [h] at hx
    cases hx
  refused := by
    rintro (_ | ⟨d, done⟩) c' rest e' hplan hdone he
    · cases hplan
      simp only [sentAll, List.map_nil, List.append_nil] at he ⊢
      rw [h] at he
      cases he
      rfl
    · cases hplan
      obtain ⟨⟨x, hx⟩, -⟩ := hdone
      rw [h] at hx
      cases hx

/-- The first command is accepted, and the session goes on with the others. -/
theorem conducts_cons {x : α} {outcome : Except ε β × List Sent}
    (h : server.reply before c = .ok x)
    (hrest : Conducts server blame plan (before ++ [c.sent]) outcome) :
    Conducts server blame (⟨α, c⟩ :: plan) before outcome := by
  obtain ⟨⟨log, hlog, hprefix⟩, hall, hrefused⟩ := hrest
  refine ⟨⟨c.sent :: log, ?_, ?_⟩, ?_, ?_⟩
  · simp [hlog]
  · simpa [sentAll] using hprefix
  · rintro ⟨-, hplan⟩
    simp [hall hplan, sentAll]
  · rintro (_ | ⟨d, done⟩) c' rest e' hplan hdone he
    · cases hplan
      simp only [sentAll, List.map_nil, List.append_nil] at he
      rw [h] at he
      cases he
    · cases hplan
      have hsent : before ++ sentAll (⟨α, c⟩ :: done) = before ++ [c.sent] ++ sentAll done := by
        simp [sentAll]
      rw [hsent] at he ⊢
      exact hrefused done c' rest e' rfl hdone.2 he

theorem conducts_send
    (h : ∀ x, Conducts server blame plan (before ++ [c.sent])
      ((f x).run.run (before ++ [c.sent]))) :
    Conducts server blame (⟨α, c⟩ :: plan) before
      ((send server blame c >>= f).run.run before) := by
  cases hreply : server.reply before c with
  | error e =>
    rw [run_send_of_error hreply]
    exact conducts_of_error hreply
  | ok x =>
    rw [run_send_of_ok hreply]
    exact conducts_cons hreply (h x)

theorem run_send_eq_ok_iff {y : β} :
    ((send server blame c >>= f).run.run before).1 = .ok y ↔
      ∃ x, server.reply before c = .ok x ∧ ((f x).run.run (before ++ [c.sent])).1 = .ok y := by
  cases hreply : server.reply before c with
  | error e =>
    rw [run_send_of_error hreply]
    exact ⟨nofun, fun ⟨_, h, _⟩ => nomatch h⟩
  | ok x =>
    rw [run_send_of_ok hreply]
    exact ⟨fun h => ⟨x, rfl, h⟩, fun ⟨_, hx, h⟩ => by cases hx; exact h⟩

theorem run_ofExcept_map (r : Except ε α) (g : α → β) :
    ((do return g (← ofExcept r)) : Session ε β).run.run before = (r.map g, before) := by
  cases r <;> rfl

end Session

/-! ## Statements of a page -/

namespace Query

variable {q : Query} {schema : String} {w : Window} {st : Statement}

/-- The tables of a schema and the conditions that both statements of a query name. -/
def scopeIn (q : Query) (schema : String) : String :=
  "\"" ++ schema ++ tablesBetween ++ schema ++ tablesEnd ++ q.whereClause

theorem countStatement_eq (h : (q.inSchema schema).countStatement = .ok st) :
    st.sql = "SELECT COUNT(*) AS total FROM " ++ q.scopeIn schema ∧
      st.parameters = q.parameters := by
  obtain ⟨-, rfl⟩ := (checked_eq_ok_iff fun tables =>
    "SELECT COUNT(*) AS total FROM " ++ tables ++ q.whereClause).mp h
  exact ⟨String.append_assoc, rfl⟩

theorem rowStatement_eq (h : ((q.inSchema schema).within w).rowStatement = .ok st) :
    st.sql = "SELECT " ++ columns ++ " FROM " ++ q.scopeIn schema ++ " ORDER BY " ++
      q.orderClause ++ windowClause w ∧ st.parameters = q.parameters := by
  obtain ⟨-, rfl⟩ := (checked_eq_ok_iff fun tables => "SELECT " ++ columns ++ " FROM " ++ tables ++
    q.whereClause ++ " ORDER BY " ++ q.orderClause ++ windowClause w).mp h
  refine ⟨?_, rfl⟩
  simp only [scopeIn, String.append_assoc]
  rfl

/-- Both statements fail for the same reasons. -/
theorem rowStatement_eq_error_iff {e : StatementError} :
    q.rowStatement = .error e ↔ q.countStatement = .error e := by
  unfold rowStatement countStatement
  cases q.checkSize with
  | error e' => rfl
  | ok u =>
    cases q.fromClause with
    | error e' => rfl
    | ok tables => exact ⟨nofun, nofun⟩

end Query

/-! ## Rows of a page -/

namespace RelationalStore

/-- A row is read if it is that of an account whose instants are timestamps. -/
theorem readRow_eq_ok_iff {row : AccountRow} {a : Account} :
    readRow row = .ok a ↔ row.toAccount = .ok a ∧
      Timestamp.InRange a.created.nanos ∧ Timestamp.InRange a.modified.nanos := by
  unfold readRow
  rw [bind_eq_ok_iff]
  constructor
  · rintro ⟨b, hb, h⟩
    split at h
    · next hrange =>
      cases h
      exact ⟨mapError_eq_ok_iff.mp hb, hrange⟩
    · cases h
  · rintro ⟨ha, hrange⟩
    refine ⟨a, mapError_eq_ok_iff.mpr ha, ?_⟩
    rw [if_pos hrange]
    rfl

theorem coe_totalOf {n : Int} (h : n < UInt64.size) : ((totalOf n).toNat : Int) = max n 0 := by
  have hsize : n.toNat < UInt64.size := (Int.toNat_lt' (by decide)).mpr h
  rw [totalOf, UInt64.toNat_ofNat_of_lt' hsize]
  omega

/-! ## Logging -/

variable {s : RelationalStore} {log : Log} {server : Server} {q : Query} {w : Window}
  {st count page : Statement}

/-- The store can log the statements of a query: it logs no values, or all of them have texts. -/
def CanLog (s : RelationalStore) (log : Log) (q : Query) : Prop :=
  s.echoSql = true → log.info = true → q.Writable

theorem trace_of_canLog (hparameters : st.parameters = q.parameters) (h : s.CanLog log q) :
    s.trace log st = pure () := by
  unfold trace
  split
  · next hecho =>
    rw [Bool.and_eq_true] at hecho
    obtain ⟨text, htext⟩ :=
      (Query.exists_shown_of_parameters hparameters).mpr (h hecho.1 hecho.2)
    rw [htext]
    rfl
  · rfl

theorem trace_of_not_canLog (hparameters : st.parameters = q.parameters) (h : ¬ s.CanLog log q) :
    s.trace log st = Session.ofExcept (.error .crash) := by
  unfold CanLog at h
  push Not at h
  obtain ⟨hecho, hinfo, hq⟩ := h
  unfold trace
  rw [hecho, hinfo]
  cases hshown : st.shown with
  | error e => rfl
  | ok text => exact absurd ((Query.exists_shown_of_parameters hparameters).mp ⟨text, hshown⟩) hq

/-! ## Pages -/

/-- The transaction around the two statements of a page. -/
def pagePlan (count page : Statement) : List AnyCommand :=
  [⟨_, .begin⟩, ⟨_, .isolate⟩, ⟨_, .total count⟩, ⟨_, .rows page⟩, ⟨_, .commit⟩]

theorem start_fetchPage_of_error {e : StatementError}
    (h : (q.inSchema s.schema).countStatement = .error e) :
    (s.fetchPage log server q w).start = (.error (.ofStatement e), []) := by
  unfold fetchPage render qualify
  rw [h]
  rfl

/-- Statements that exist are logged before anything is sent. -/
theorem start_fetchPage_of_ok (hcount : (q.inSchema s.schema).countStatement = .ok count)
    (hpage : ((q.inSchema s.schema).within w).rowStatement = .ok page) :
    (s.fetchPage log server q w).start =
      (do s.trace log count
          s.trace log page
          transact server count page : Session ReadFault PageSlice).start := by
  unfold fetchPage render qualify
  rw [hcount, hpage]
  rfl

theorem start_fetchPage_of_canLog (hcount : (q.inSchema s.schema).countStatement = .ok count)
    (hpage : ((q.inSchema s.schema).within w).rowStatement = .ok page) (h : s.CanLog log q) :
    (s.fetchPage log server q w).start = (transact server count page).start := by
  rw [start_fetchPage_of_ok hcount hpage, trace_of_canLog (Query.countStatement_eq hcount).2 h,
    trace_of_canLog (Query.rowStatement_eq hpage).2 h]
  rfl

theorem start_fetchPage_of_not_canLog (hcount : (q.inSchema s.schema).countStatement = .ok count)
    (hpage : ((q.inSchema s.schema).within w).rowStatement = .ok page) (h : ¬ s.CanLog log q) :
    (s.fetchPage log server q w).start = (.error .crash, []) := by
  rw [start_fetchPage_of_ok hcount hpage, trace_of_not_canLog (Query.countStatement_eq hcount).2 h]
  rfl

theorem conducts_transact (server : Server) (count page : Statement) :
    Conducts server (fun e => .error e.toStore) (pagePlan count page) []
      (transact server count page).start := by
  refine Session.conducts_send fun _ => Session.conducts_send fun _ => ?_
  refine Session.conducts_send fun n => Session.conducts_send fun rows => ?_
  refine Session.conducts_send fun _ => ?_
  rw [readRows, Session.run_ofExcept_map]
  exact Session.conducts_nil _

theorem transact_eq_ok_iff {slice : PageSlice} :
    (transact server count page).start.1 = .ok slice ↔
      server.Accepts [] (pagePlan count page) ∧ ∃ n rows,
        server.reply ((sentAll (pagePlan count page)).take 2) (.total count) = .ok n ∧
        server.reply ((sentAll (pagePlan count page)).take 3) (.rows page) = .ok rows ∧
        slice.total = totalOf n ∧
        List.Forall₂ (fun row a => row.toAccount = .ok a ∧
          Timestamp.InRange a.created.nanos ∧ Timestamp.InRange a.modified.nanos)
          rows slice.items := by
  have hread : ∀ (rows : List AccountRow) (total : UInt64) (sent : List Sent),
      ((do return ⟨total, ← readRows rows⟩ : Session ReadFault PageSlice).run.run sent).1 =
          .ok slice ↔
        slice.total = total ∧ List.Forall₂ (fun row a => readRow row = .ok a) rows slice.items := by
    intro rows total sent
    rw [readRows, Session.run_ofExcept_map, map_eq_ok_iff]
    simp only [mapM_eq_ok_iff]
    constructor
    · rintro ⟨items, hitems, rfl⟩
      exact ⟨rfl, hitems⟩
    · rintro ⟨rfl, hitems⟩
      exact ⟨slice.items, hitems, rfl⟩
  unfold transact Session.start ask
  simp only [Session.run_send_eq_ok_iff, hread, readRow_eq_ok_iff]
  constructor
  · rintro ⟨_, hbegin, _, hisolate, n, hn, rows, hrows, _, hcommit, htotal, hitems⟩
    exact ⟨⟨⟨_, hbegin⟩, ⟨_, hisolate⟩, ⟨n, hn⟩, ⟨rows, hrows⟩, ⟨_, hcommit⟩, trivial⟩, n, rows, hn,
      hrows, htotal, hitems⟩
  · rintro ⟨⟨⟨_, hbegin⟩, ⟨_, hisolate⟩, -, -, ⟨_, hcommit⟩, -⟩, n, rows, hn, hrows, htotal, hitems⟩
    exact ⟨_, hbegin, _, hisolate, n, hn, rows, hrows, _, hcommit, htotal, hitems⟩

/-- A page is read in one transaction of five commands, whatever the server does: the first refusal
ends the read and is its failure. Both statements ask for the same rows of the schema of the store,
and a page is returned exactly if all five commands are sent and accepted and every row is an
account. Nothing is sent where a statement does not exist or cannot be logged. -/
theorem fetchPage_is_one_transaction (s : RelationalStore) (log : Log) (server : Server) (q : Query)
    (w : Window) :
    (∀ n : Int, n < UInt64.size → ((totalOf n).toNat : Int) = max n 0) ∧
    (∀ e, (q.inSchema s.schema).countStatement = .error e ∨
        ((q.inSchema s.schema).within w).rowStatement = .error e →
      (s.fetchPage log server q w).start = (.error (.error (.invalidQuery e)), [])) ∧
    ∀ count page, (q.inSchema s.schema).countStatement = .ok count →
      ((q.inSchema s.schema).within w).rowStatement = .ok page →
      count.sql = "SELECT COUNT(*) AS total FROM " ++ q.scopeIn s.schema ∧
      page.sql = "SELECT " ++ Query.columns ++ " FROM " ++ q.scopeIn s.schema ++ " ORDER BY " ++
        q.orderClause ++ Query.windowClause w ∧
      count.parameters = q.parameters ∧ page.parameters = q.parameters ∧
      sentAll (pagePlan count page) = [⟨"BEGIN", []⟩,
        ⟨"SET TRANSACTION ISOLATION LEVEL REPEATABLE READ, READ ONLY", []⟩,
        ⟨count.sql, q.parameters.map Datum.bound⟩,
        ⟨page.sql, q.parameters.map Datum.bound⟩, ⟨"COMMIT", []⟩] ∧
      (¬ s.CanLog log q → (s.fetchPage log server q w).start = (.error .crash, [])) ∧
      (s.CanLog log q → Conducts server (fun e => .error e.toStore) (pagePlan count page) []
        (s.fetchPage log server q w).start) ∧
      ∀ slice, (s.fetchPage log server q w).start.1 = .ok slice ↔
        (s.fetchPage log server q w).start.2 = sentAll (pagePlan count page) ∧
        server.Accepts [] (pagePlan count page) ∧ ∃ n rows,
          server.reply ((sentAll (pagePlan count page)).take 2) (.total count) = .ok n ∧
          server.reply ((sentAll (pagePlan count page)).take 3) (.rows page) = .ok rows ∧
          slice.total = totalOf n ∧
          List.Forall₂ (fun row a => row.toAccount = .ok a ∧
            Timestamp.InRange a.created.nanos ∧ Timestamp.InRange a.modified.nanos)
            rows slice.items := by
  refine ⟨fun _ => coe_totalOf, fun e h => start_fetchPage_of_error ?_,
    fun count page hcount hpage => ?_⟩
  · exact h.elim id Query.rowStatement_eq_error_iff.mp
  · obtain ⟨hcountSql, hcountParameters⟩ := Query.countStatement_eq hcount
    obtain ⟨hpageSql, hpageParameters⟩ := Query.rowStatement_eq hpage
    refine ⟨hcountSql, hpageSql, hcountParameters, hpageParameters, ?_,
      start_fetchPage_of_not_canLog hcount hpage, fun h => ?_, fun slice => ?_⟩
    · show [_, _, Sent.ofStatement count, Sent.ofStatement page, _] = _
      rw [Sent.ofStatement, Sent.ofStatement, hcountParameters, hpageParameters]
      rfl
    · rw [start_fetchPage_of_canLog hcount hpage h]
      exact conducts_transact server count page
    · by_cases h : s.CanLog log q
      · rw [start_fetchPage_of_canLog hcount hpage h, transact_eq_ok_iff]
        have hsent := (conducts_transact server count page).sent_all
        exact ⟨fun hslice => ⟨hsent hslice.1, hslice⟩, And.right⟩
      · rw [start_fetchPage_of_not_canLog hcount hpage h]
        exact iff_of_false nofun fun hslice => by cases hslice.1

/-- A server that accepts everything, with a negative number and one row for any statement. -/
def oneRowServer : Server where
  connect := .ok ()
  reply _ c :=
    match c with
    | .execute _ => .ok ()
    | .total _ => .ok (-1)
    | .rows _ => .ok [.ofAccount default]

/-- The active accounts that have changed since a moment. -/
def changedSince (t : Timestamp) : Query :=
  Query.active.restrict (.compare .modified .ge (.timestamp t))

/-- A database in which statements are echoed. -/
def echoing : DatabaseSettings :=
  { DatabaseSettings.standard with schema := "bank", echoSql := true }

/-- The start of the year before year 0. -/
def yearMinusOne : Timestamp := ⟨-62198755200000000000, 0⟩

theorem fetchPage_is_one_transaction_oneRow :
    (connect echoing oneRowServer).start.1 = .ok ⟨"bank", true⟩ ∧
    (fetchPage ⟨"bank", true⟩ .standard oneRowServer (changedSince ⟨0, 120⟩)
      ⟨some 10, 0⟩).start.1 = .ok ⟨0, [default]⟩ ∧
    (fetchPage ⟨"bank", true⟩ .standard oneRowServer (changedSince yearMinusOne)
      ⟨some 10, 0⟩).start = (.error .crash, []) := by
  have hname : quoteIdentifier "bank" = .ok "\"bank\"" := by decide
  have hrenderable (t : Timestamp) : ((changedSince t).inSchema "bank").Renderable :=
    ⟨show 2 ≤ maxConditionNodes by decide, (quoteIdentifier_eq_ok_iff.mp hname).1⟩
  have hcount (t : Timestamp) := Query.countStatement_eq_ok_iff.mpr ⟨hrenderable t, rfl⟩
  have hpage (t : Timestamp) := Query.rowStatement_eq_ok_iff.mpr
    ⟨(show (((changedSince t).inSchema "bank").within ⟨some 10, 0⟩).Renderable from hrenderable t),
      rfl⟩
  have hread (t : Timestamp) := (fetchPage_is_one_transaction ⟨"bank", true⟩ .standard oneRowServer
    (changedSince t) ⟨some 10, 0⟩).2.2 _ _ (hcount t) (hpage t)
  have hlog (t : Timestamp) :
      CanLog ⟨"bank", true⟩ .standard (changedSince t) ↔ t.Writable := by
    have hparameters : (changedSince t).parameters = [.bool false, .timestamp t] := rfl
    rw [CanLog, Query.Writable, hparameters, List.forall_mem_cons, List.forall_mem_singleton]
    exact ⟨fun h => (h rfl rfl).2, fun h _ _ => ⟨trivial, h⟩⟩
  refine ⟨rfl, ?_, ?_⟩
  · obtain ⟨-, -, -, -, -, -, hconducts, hslice⟩ := hread ⟨0, 120⟩
    have haccepts (count page : Statement) : oneRowServer.Accepts [] (pagePlan count page) :=
      ⟨⟨(), rfl⟩, ⟨(), rfl⟩, ⟨-1, rfl⟩, ⟨_, rfl⟩, ⟨(), rfl⟩, trivial⟩
    have hsent := (hconducts ((hlog _).mpr (by decide))).sent_all (haccepts _ _)
    exact (hslice _).mpr ⟨hsent, haccepts _ _, -1, [.ofAccount default], rfl, rfl, by decide,
      .cons ⟨rfl, by decide⟩ .nil⟩
  · obtain ⟨-, -, -, -, -, hcrash, -⟩ := hread yearMinusOne
    exact hcrash (mt (hlog _).mp (by decide))

end RelationalStore

end AccountRegistry
