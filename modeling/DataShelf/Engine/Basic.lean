import DataShelf.Number.Double

/-!
# The SQL engine

The engine is outside this library; here it is the answers it gives. A connection is private, so an
answer depends on the statement and on the statements sent over the same connection before. Rows
arrive one by one, and any row or cell may fail. Counts of days and of units of time are machine
integers; with the number of an integer cell nothing is computed, so any integer may stand there.
-/

namespace DataShelf
set_option autoImplicit false

namespace Engine

/-- The types of integers that the engine has. -/
inductive IntegerType where
  | i8 | i16 | i32 | i64 | i128
  | u8 | u16 | u32 | u64 | u128
  deriving DecidableEq, Repr

/-- The unit in which a time is counted. -/
inductive TimeUnit where
  | second
  | millisecond
  | microsecond
  | nanosecond
  deriving DecidableEq, Repr

/-- What the engine has in a cell. -/
inductive Cell where
  | null
  | boolean (b : Bool)
  | integer (type : IntegerType) (n : Int)
  | real (x : Number.Double)
  | decimal (numeral : String)
  | text (octets : List UInt8)
  | blob (octets : List UInt8)
  | geometry (octets : List UInt8)
  | date (days : Int32)
  | timestamp (unit : TimeUnit) (count : Int64)
  | time (unit : TimeUnit) (count : Int64)
  | interval (months days : Int32) (nanos : Int64)
  | other (shown : String)
  | unreadable (message : String)
  deriving Inhabited

/-- Rows as they are fetched: to the end, or to a fetch that fails. -/
inductive Rows where
  | done
  | failed (message : String)
  | row (cells : List Cell) (rest : Rows)
  deriving Inhabited

/-- The answer to a query. A column may have no name. -/
inductive Answer where
  | unprepared (message : String)
  | failed (message : String)
  | table (columns : List (Option String)) (rows : Rows)
  deriving Inhabited

/-- A statement sent over a connection. -/
inductive Statement where
  | batch (sql : String)
  | query (sql : String)
  deriving DecidableEq, Repr

/-- Something that the engine was asked to do, and whether it did. -/
inductive Call where
  | open (ok : Bool)
  | batch (sql : String) (ok : Bool)
  | query (sql : String) (ok : Bool)
  | close (ok : Bool)
  | drop
  deriving DecidableEq, Repr

end Engine

/-- How an engine behaves. The statements sent over the connection before come first; a batch
statement and closing answer the message of a failure, if they fail. -/
structure Engine where
  openFailure : Option String
  batch : List Engine.Statement → String → Option String
  query : List Engine.Statement → String → Engine.Answer
  closeFailure : List Engine.Statement → Option String

end DataShelf
