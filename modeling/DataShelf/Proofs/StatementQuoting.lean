import DataShelf.Proofs.SessionTrace
import DataShelf.Proofs.Tokens

/-!
# Names and paths stay inside their quotes

Statements are put together from fixed words, quoted names and paths, the text of a script, and a
number. Whatever the names and paths are, a scanner reads the fixed words, then the name of the view
as one token, and then the rest as it was meant (`statements_keep_their_quotes`).
-/

namespace DataShelf.Query
set_option autoImplicit false

open Catalog (Table viewName)
open Files (FileTree)
open Engine (Call)

theorem createView_eq (view : String) :
    createView view = "CREATE VIEW " ++ Sql.identifier view ++ " AS " :=
  rfl

theorem previewStatement_eq (view : String) (limit : Nat) :
    Gateway.previewStatement view limit =
      "SELECT * FROM " ++ Sql.identifier view ++ " LIMIT " ++ toString limit :=
  rfl

/-- What the statement for a view is: the name of the view comes behind fixed words, and behind it a
path in quotes or the text of a script that is not empty. -/
theorem viewStatement_eq_ok_iff {t : FileTree} {source : String} {table : Table} {sql : String} :
    viewStatement t source table = .ok sql ↔
      (table.kind = .parquet ∧
        sql = "CREATE VIEW " ++ Sql.identifier (viewName source table.name) ++
          (" AS SELECT * FROM read_parquet(" ++ (Sql.literal table.dataFile.display ++ ")"))) ∨
      (table.kind = .sqlScript ∧ ∃ script, t.readText table.dataFile = .ok script ∧
        scriptBody script ≠ "" ∧
        sql = "CREATE VIEW " ++ Sql.identifier (viewName source table.name) ++
          (" AS " ++ scriptBody script)) := by
  cases kind : table.kind with
  | parquet =>
    simp only [viewStatement, kind, createView_eq, String.append_assoc, Except.ok.injEq, true_and,
      reduceCtorEq, false_and, or_false]
    exact eq_comm
  | sqlScript =>
    simp only [viewStatement, kind, reduceCtorEq, false_and, false_or, true_and]
    cases read : t.readText table.dataFile with
    | error e => simp
    | ok script =>
      by_cases empty : scriptBody script = ""
      · simp [empty]
      · simp only [Except.ok.injEq, exists_eq_left', ne_eq, empty, not_false_iff, true_and,
          String.isEmpty_iff, if_false, createView_eq, String.append_assoc]
        exact eq_comm

/-- Only a script may be without a statement: one that cannot be read or is empty. -/
theorem unbuilt_view {t : FileTree} {source : String} {table : Table} {err : QueryError}
    (failed : viewStatement t source table = .error err) :
    table.kind = .sqlScript ∧ ∀ script, t.readText table.dataFile = .ok script →
      scriptBody script = "" := by
  cases kind : table.kind with
  | parquet =>
    have built : viewStatement t source table = .ok _ :=
      viewStatement_eq_ok_iff.2 (.inl ⟨kind, rfl⟩)
    rw [failed] at built
    cases built
  | sqlScript =>
    refine ⟨rfl, fun script read => ?_⟩
    by_contra filled
    have built : viewStatement t source table = .ok _ :=
      viewStatement_eq_ok_iff.2 (.inr ⟨kind, script, read, filled, rfl⟩)
    rw [failed] at built
    cases built

/-- A scanner reads the statement for a view as it was meant. -/
theorem built_view_reads_back {t : FileTree} {source : String} {table : Table} {sql : String}
    (built : viewStatement t source table = .ok sql) :
    ∃ remainder,
      Sql.tokenBehind? "CREATE VIEW " sql = some (source ++ "_" ++ table.name, remainder) ∧
      match table.kind with
      | .parquet =>
        ∃ behind, remainder = " AS SELECT * FROM read_parquet(" ++ behind ∧
          Sql.token? '\'' behind = some (table.dataFile.display, ")")
      | .sqlScript =>
        ∃ script, t.readText table.dataFile = .ok script ∧
          remainder = " AS " ++ scriptBody script := by
  rcases viewStatement_eq_ok_iff.1 built with ⟨kind, rfl⟩ | ⟨kind, script, read, -, rfl⟩
  · refine ⟨_, Sql.tokenBehind?_identifier _ _ _ (by simp), ?_⟩
    rw [kind]
    exact ⟨_, rfl, Sql.token?_literal _ _ (by simp)⟩
  · refine ⟨_, Sql.tokenBehind?_identifier _ _ _ (by simp), ?_⟩
    rw [kind]
    exact ⟨script, read, rfl⟩

/-- A preview is of the view that it names, with its limit behind. -/
theorem preview_reads_back (view : String) (limit : Nat) :
    Sql.tokenBehind? "SELECT * FROM " (Gateway.previewStatement view limit) =
      some (view, " LIMIT " ++ toString limit) := by
  rw [previewStatement_eq, String.append_assoc]
  exact Sql.tokenBehind?_identifier _ _ _ (by simp)

/-- The only query that a session sends is the one it is for. -/
theorem query_of_runQuery {g : Gateway} {sql other : String} {ok : Bool}
    (sent : Call.query other ok ∈ (g.runQuery sql).calls) : other = sql := by
  cases failed : g.engine.openFailure with
  | some message => simp [(runQuery_of_failure g sql failed).1] at sent
  | none =>
    rw [(runQuery_of_success g sql failed).1] at sent
    simp only [List.cons_append, List.mem_cons, reduceCtorEq, List.mem_append, false_or,
      Call.query.injEq] at sent
    rcases sent with registered | ⟨same, -⟩ | closed
    · obtain ⟨s, -, same⟩ := List.mem_map.1 registered
      cases same
    · exact same
    · unfold closingCalls at closed
      split at closed <;> simp at closed

/-- The only query that a preview sends selects from the view of the table. -/
theorem query_of_previewTable {g : Gateway} {source table sql : String} {limit : Nat} {ok : Bool}
    (sent : Call.query sql ok ∈ (g.previewTable source table limit).calls) :
    sql = Gateway.previewStatement (viewName source table) limit := by
  unfold Gateway.previewTable at sent
  split at sent
  · cases sent
  · dsimp only at sent
    split at sent
    · split at sent
      · exact query_of_runQuery sent
      · cases sent
    · exact query_of_runQuery sent

/-- **Names and paths stay inside their quotes.** The scanner follows the lexical rule of quoted
tokens, and it reads each statement as it was meant: the fixed words, one token with the name of the
view, and then the path in one token of its own, the text of the script, or the number. Quoting
loses nothing, and what follows a token is not drawn into it unless it begins with the quote. -/
theorem statements_keep_their_quotes :
    (∀ (quote : Char) (text value rest : List Char),
      Sql.unquote? quote text = some (value, rest) ↔
        ∃ cs, text = quote :: cs ∧ Sql.Quotes quote cs value rest) ∧
    (∀ (t : FileTree) (source : String) (table : Table),
      match viewStatement t source table with
      | .error _ =>
        table.kind = .sqlScript ∧ ∀ script, t.readText table.dataFile = .ok script →
          scriptBody script = ""
      | .ok sql =>
        ∃ remainder,
          Sql.tokenBehind? "CREATE VIEW " sql = some (source ++ "_" ++ table.name, remainder) ∧
          match table.kind with
          | .parquet =>
            ∃ behind, remainder = " AS SELECT * FROM read_parquet(" ++ behind ∧
              Sql.token? '\'' behind = some (table.dataFile.display, ")")
          | .sqlScript =>
            ∃ script, t.readText table.dataFile = .ok script ∧
              remainder = " AS " ++ scriptBody script) ∧
    (∀ (source table : String) (limit : Nat),
      Sql.tokenBehind? "SELECT * FROM " (Gateway.previewStatement (viewName source table) limit) =
        some (source ++ "_" ++ table, " LIMIT " ++ toString limit)) ∧
    (∀ (g : Gateway) (source table : String) (limit : Nat) (sql : String) (ok : Bool),
      Call.query sql ok ∈ (g.previewTable source table limit).calls →
        sql = Gateway.previewStatement (viewName source table) limit) ∧
    Function.Injective Sql.identifier ∧ Function.Injective Sql.literal ∧
    (∀ name rest : String, rest.toList.head? ≠ some '"' →
      Sql.token? '"' (Sql.identifier name ++ rest) = some (name, rest)) ∧
    (∀ value rest : String, rest.toList.head? ≠ some '\'' →
      Sql.token? '\'' (Sql.literal value ++ rest) = some (value, rest)) := by
  refine ⟨fun _ _ _ _ => Sql.unquote?_eq_some_iff, fun t source table => ?_,
    fun source table limit => preview_reads_back _ limit, ?_, Sql.identifier_injective,
    Sql.literal_injective, Sql.token?_identifier, Sql.token?_literal⟩
  · cases built : viewStatement t source table with
    | error err => exact unbuilt_view built
    | ok sql => exact built_view_reads_back built
  · intro g source table limit sql ok sent
    exact query_of_previewTable sent

end DataShelf.Query
