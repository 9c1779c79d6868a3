import DataShelf.Query.Error
import DataShelf.Query.Value

/-!
# Rows and results

A row holds a value for each column of its result. Its values can be asked for by type, and it has
two JSON forms: by position and by column name.
-/

namespace DataShelf.Query
set_option autoImplicit false

open Number (Double)

namespace Value

/-- The refusal of null for a type that has none. -/
def nullRefused (type : String) : ConnectionError :=
  .typeConversion (type ++ " field is NULL - use Option<" ++ type ++ "> for nullable columns")

/-- A value as an integer. -/
def asInteger : Value → Except ConnectionError Int
  | .integer n => .ok n.toInt
  | .null => .error (nullRefused "i64")
  | _ => .error (.typeConversion "Expected integer")

/-- A value as a double. -/
def asReal : Value → Except ConnectionError Double
  | .real x => .ok x
  | .integer n => .ok (Double.ofInt n.toInt)
  | .null => .error (nullRefused "f64")
  | _ => .error (.typeConversion "Expected real")

/-- A value as text. -/
def asText : Value → Except ConnectionError String
  | .text s => .ok s
  | .numeric s => .ok s
  | .null => .error (nullRefused "String")
  | _ => .error (.typeConversion "Expected text")

/-- A value as a truth value. An integer is true unless it is zero. -/
def asBoolean : Value → Except ConnectionError Bool
  | .boolean b => .ok b
  | .integer n => .ok (n != 0)
  | .null => .error (nullRefused "bool")
  | _ => .error (.typeConversion "Expected boolean")

/-- A value of a type, or nothing for null. -/
def orNull {α : Type} (as : Value → Except ConnectionError α) :
    Value → Except ConnectionError (Option α)
  | .null => .ok none
  | v => (as v).map some

end Value

/-- The values of a row, in the order of the columns. -/
structure Row where
  values : List Value
  deriving DecidableEq, Inhabited, Repr

namespace Row

/-- The value in a column, as a type. -/
def get {α : Type} (r : Row) (as : Value → Except ConnectionError α) (index : Nat) :
    Except ConnectionError α :=
  match r.values[index]? with
  | some v => as v
  | none => .error (.typeConversion ("Column index " ++ toString index ++ " out of bounds"))

/-- The values by position. -/
def toArray (r : Row) : List Json := r.values.map Value.toJson

/-- The values by column name. Of several columns with one name the last gives the value. -/
def toRecord (columns : List String) (r : Row) : Json.Fields :=
  Json.objectOf (columns.zip r.toArray)

end Row

/-- What a query gave: column names in the order of the engine, and rows. -/
structure Result where
  columns : List String
  rows : List Row
  deriving DecidableEq, Inhabited, Repr

namespace Result

def rowCount (r : Result) : Nat := r.rows.length

/-- The rows by column name. -/
def records (r : Result) : List Json := r.rows.map fun row => .object (row.toRecord r.columns)

end Result
end DataShelf.Query
