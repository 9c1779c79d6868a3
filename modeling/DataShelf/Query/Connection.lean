import DataShelf.Query.Row
import DataShelf.Trace

/-!
# Connections

A connection to the engine remembers what was sent over it. A query gives all rows or none: the
first failure, of a row or of a cell in it, is the answer.
-/

namespace DataShelf.Query
set_option autoImplicit false

open Engine (Cell Rows Answer Statement)

/-- An open connection: the statements sent over it so far. -/
structure Connection where
  sent : List Statement
  deriving DecidableEq, Inhabited, Repr

/-- The names of columns; a column without one is named by its position. -/
def columnNames (columns : List (Option String)) : List String :=
  columns.zipIdx.map fun c => c.1.getD ("column" ++ toString c.2)

/-- The first cells of a row as values, the number of columns telling how many. -/
def readCells : (columns : Nat) → (index : Nat) → List Cell → Except String (List Value)
  | 0, _, _ => .ok []
  | _ + 1, index, [] => .error ("Invalid column index: " ++ toString index)
  | columns + 1, index, cell :: cells => do
    let value ← Value.ofCell cell
    let values ← readCells columns (index + 1) cells
    return value :: values

/-- All rows, each with a value for each column. -/
def readRows (columns : Nat) : Rows → Except String (List Row)
  | .done => .ok []
  | .failed message => .error message
  | .row cells rest => do
    let values ← readCells columns 0 cells
    let rows ← readRows columns rest
    return ⟨values⟩ :: rows

/-- The result that an answer of the engine is, or the message of the first failure in it. -/
def readAnswer : Answer → Except String Result
  | .unprepared message => .error message
  | .failed message => .error message
  | .table columns rows =>
    (readRows columns.length rows).map fun rows => ⟨columnNames columns, rows⟩

/-- Whether a query was prepared. -/
def isPrepared : Answer → Bool
  | .unprepared _ => false
  | _ => true

namespace Connection

/-- How a connection shows itself. -/
def shown : String := "DbConnection \x7b backend: \"DuckDB\", mode: \"in-memory\" \x7d"

/-- Opens a connection. -/
def «open» (e : Engine) : Traced (Except ConnectionError Connection) :=
  match e.openFailure with
  | some message => do
    Traced.call (.open false)
    return .error (.engine message)
  | none => do
    Traced.call (.open true)
    return .ok ⟨[]⟩

/-- Sends a batch statement. -/
def execute (e : Engine) (c : Connection) (sql : String) :
    Traced (Except ConnectionError Unit × Connection) := do
  let failure := e.batch c.sent sql
  Traced.tell (.statement .batch sql)
  Traced.call (.batch sql failure.isNone)
  let next : Connection := ⟨c.sent ++ [.batch sql]⟩
  match failure with
  | some message => return (.error (.engine message), next)
  | none => return (.ok (), next)

/-- Sends a query and reads its answer. -/
def query (e : Engine) (c : Connection) (sql : String) :
    Traced (Except ConnectionError Result × Connection) := do
  let answer := e.query c.sent sql
  Traced.tell (.statement .query sql)
  Traced.call (.query sql (isPrepared answer))
  return ((readAnswer answer).mapError .engine, ⟨c.sent ++ [.query sql]⟩)

/-- Sends a query whose answer is one value. -/
def scalar {α : Type} (e : Engine) (as : Value → Except ConnectionError α) (c : Connection)
    (sql : String) : Traced (Except ConnectionError α × Connection) := do
  let (outcome, next) ← c.query e sql
  let value := outcome.bind fun result =>
    match result.rows with
    | [] => .error (.query "Expected one row, got none")
    | row :: _ => row.get as 0
  return (value, next)

/-- Closes a connection. One that cannot be closed is dropped. -/
def close (e : Engine) (c : Connection) : Traced (Except ConnectionError Unit) :=
  match e.closeFailure c.sent with
  | some message => do
    Traced.call (.close false)
    Traced.call .drop
    return .error (.engine message)
  | none => do
    Traced.call (.close true)
    return .ok ()

end Connection
end DataShelf.Query
