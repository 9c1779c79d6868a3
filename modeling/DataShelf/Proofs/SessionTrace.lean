import DataShelf.Proofs.CompleteResults
import DataShelf.Proofs.Registration

/-!
# The calls of a session

A query has a session of its own: the engine is asked to open a connection, to make the views of the
owners one after another, to run the query, and to close. No failure behind the opening keeps a later
call from being made, and what comes of the query depends on its answer alone: all of it, or the message
of the first stage that fails (`runQuery_session`).
-/

namespace DataShelf.Query
set_option autoImplicit false

open Files (FileTree)
open Engine (Statement Call Answer)

/-- The calls that end a session. A connection that cannot be closed is dropped. -/
def closingCalls (e : Engine) (sent : List Statement) : List Call :=
  match e.closeFailure sent with
  | none => [.close true]
  | some _ => [.close false, .drop]

section Session

variable {t : FileTree} {e : Engine} {c : Catalog}

/-- Nothing comes of a connection that cannot be opened. -/
theorem open_of_failure {message : String} (failed : e.openFailure = some message) :
    (Session.open t e c).calls = [.open false] ∧
    (Session.open t e c).notices = [] ∧
    (Session.open t e c).value = .error (.session message) := by
  simp [Session.open, Connection.open, failed, ConnectionError.engineMessage]

/-- A session that is opened has made the views of the catalog. -/
theorem open_of_success (opened : e.openFailure = none) :
    ∃ owners s, Made t e c.tables (owners, s) ∧
      (Session.open t e c).value = .ok s ∧
      (Session.open t e c).calls = .open true :: batchCalls e (registrations t c.tables) ∧
      (Session.open t e c).notices =
        (splits [] c.tables).filterMap fun s => (fate t e s.1 s.2).notice? s.2 := by
  obtain ⟨made, calls, notices⟩ := register_all t e c.tables
  refine ⟨_, _, made, ?_, ?_, ?_⟩
  · simp [Session.open, Connection.open, opened]
  · simp [Session.open, Connection.open, opened, calls]
  · simp [Session.open, Connection.open, opened, notices]

theorem calls_query (s : Session) (sql : String) :
    (s.query e sql).calls = [.query sql (isPrepared (e.query s.connection.sent sql))] := by
  simp [Session.query, Connection.query]

/-- The value of a query is what is read from the answer, and the statement counts as sent. -/
theorem value_query (s : Session) (sql : String) :
    (s.query e sql).value =
      ((readAnswer (e.query s.connection.sent sql)).mapError .execution,
        { s with connection := ⟨s.connection.sent ++ [.query sql]⟩ }) := by
  simp only [Session.query, Connection.query]
  cases readAnswer (e.query s.connection.sent sql) <;>
    simp [Except.mapError, QueryError.ofConnection, ConnectionError.engineMessage]

theorem calls_close (s : Session) : (s.close e).calls = closingCalls e s.connection.sent := by
  simp only [Session.close, Connection.close, closingCalls]
  cases e.closeFailure s.connection.sent <;> simp

end Session

section Gateway

variable (g : Gateway) (sql : String)

/-- The answer that a query gets behind the registrations. -/
def Gateway.answer : Answer := g.engine.query (sentFor g.files g.catalog.tables) sql

/-- A session that cannot be opened is the only call. -/
theorem runQuery_of_failure {message : String} (failed : g.engine.openFailure = some message) :
    (g.runQuery sql).calls = [.open false] ∧
    (g.runQuery sql).value = .error (.session message) := by
  obtain ⟨calls, -, value⟩ := open_of_failure (t := g.files) (c := g.catalog) failed
  constructor
  · simp [Gateway.runQuery, calls, value]
  · simp [Gateway.runQuery, value]

/-- A session that is opened registers the tables, asks the query and is closed. -/
theorem runQuery_of_success (opened : g.engine.openFailure = none) :
    (g.runQuery sql).calls =
      .open true :: batchCalls g.engine (registrations g.files g.catalog.tables) ++
        .query sql (isPrepared (g.answer sql)) ::
          closingCalls g.engine (sentFor g.files g.catalog.tables ++ [.query sql]) ∧
    (g.runQuery sql).value = (readAnswer (g.answer sql)).mapError .execution := by
  obtain ⟨owners, s, made, value, calls, -⟩ :=
    open_of_success (t := g.files) (c := g.catalog) opened
  have sent : s.connection.sent = sentFor g.files g.catalog.tables := made.sent
  constructor
  · simp [Gateway.runQuery, calls, value, calls_query, value_query, calls_close, sent,
      Gateway.answer]
  · simp [Gateway.runQuery, value, value_query, sent, Gateway.answer]

/-- A query fails in its session or because the session was not opened. -/
theorem runQuery_error_cases {err : QueryError} (failed : (g.runQuery sql).value = .error err) :
    ∃ message, err = .session message ∨ err = .execution message := by
  cases closed : g.engine.openFailure with
  | some message =>
    rw [(runQuery_of_failure g sql closed).2] at failed
    exact ⟨message, .inl (Except.error.inj failed).symm⟩
  | none =>
    rw [(runQuery_of_success g sql closed).2] at failed
    cases answer : readAnswer (g.answer sql) with
    | ok result => simp [answer, Except.mapError] at failed
    | error message =>
      rw [answer] at failed
      exact ⟨message, .inr (Except.error.inj failed).symm⟩

/-- **The calls of a session.** Behind an opening that fails nothing follows. Behind any other, the
statements of the owners are sent in the order of the catalog, then the query as it is, and the
connection is closed, or dropped if it cannot be closed. What comes of it is that of the query alone:
there is a result exactly if no stage of the answer fails, and it has all that was fetched; otherwise the
error has the message of the first stage that fails. -/
theorem runQuery_session :
    match g.engine.openFailure with
    | some message =>
      (g.runQuery sql).calls = [.open false] ∧
      (g.runQuery sql).value = .error (.session message)
    | none =>
      (g.runQuery sql).calls =
        .open true :: batchCalls g.engine (registrations g.files g.catalog.tables) ++
          .query sql (isPrepared (g.answer sql)) ::
            closingCalls g.engine (sentFor g.files g.catalog.tables ++ [.query sql]) ∧
      (isPrepared (g.answer sql) = false ↔ ∃ message, Fails (g.answer sql) .prepare message) ∧
      ((∃ result, (g.runQuery sql).value = .ok result) ↔
        ∀ stage message, ¬Fails (g.answer sql) stage message) ∧
      (∀ result, (g.runQuery sql).value = .ok result →
        ∃ columns rows, g.answer sql = .table columns rows ∧
          Completes columns rows.fetched result) ∧
      ∀ err, (g.runQuery sql).value = .error err ↔
        ∃ stage message, err = .execution message ∧ Fails (g.answer sql) stage message ∧
          Reached (g.answer sql) stage := by
  cases failed : g.engine.openFailure with
  | some message => exact runQuery_of_failure g sql failed
  | none =>
    obtain ⟨calls, value⟩ := runQuery_of_success g sql failed
    simp only [value, mapError_eq_ok_iff, mapError_eq_error_iff]
    exact ⟨calls, isPrepared_eq_false_iff, exists_readAnswer_iff,
      fun result read => (complete_of_ok read).2, fun err => exists_error_iff⟩

end Gateway
end DataShelf.Query
