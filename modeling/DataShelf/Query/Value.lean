import DataShelf.Calendar.Instant
import DataShelf.Engine.Basic
import DataShelf.Json.Basic
import DataShelf.Text.Base64
import DataShelf.Text.Utf8

/-!
# Values of a query

What the engine has in a cell becomes a value: an integer if it fits 64 bits and its numeral
otherwise, dates and times of day as text, and a text that shows the cell where there is no better
form. Every value has a JSON form.

Counts are computed with in machine integers. A product beyond 64 bits and a sum beyond 32 start
over, as they do where the program is built without checks of overflow; built with them, it stops.
-/

namespace DataShelf.Query
set_option autoImplicit false

open Calendar (Date Instant)
open Engine (Cell TimeUnit)

/-- A value that a query gave. -/
inductive Value where
  | null
  | integer (n : Int64)
  | real (x : Number.Double)
  | numeric (numeral : String)
  | text (s : String)
  | blob (octets : List UInt8)
  | boolean (b : Bool)
  | timestamp (instant : Instant)
  deriving DecidableEq, Inhabited, Repr

namespace Value

/-- Whether an integer fits 64 bits with sign. -/
def fits64 (n : Int) : Bool := -(Nat.pow 2 63 : Int) ≤ n && n < Nat.pow 2 63

/-- An integer, as a number if it fits. -/
def ofInteger (n : Int) : Value :=
  if fits64 n then .integer (.ofInt n) else .numeric (toString n)

/-- A count of a unit in microseconds. -/
def micros (unit : TimeUnit) (count : Int64) : Int64 :=
  match unit with
  | .second => count * 1000000
  | .millisecond => count * 1000
  | .microsecond => count
  | .nanosecond => count / 1000

/-- Octets as they are shown in a list. -/
def showOctets (octets : List UInt8) : String :=
  "[" ++ ", ".intercalate (octets.map fun b => toString b.toNat) ++ "]"

/-- The value in a cell, or why the cell cannot be read. -/
def ofCell : Cell → Except String Value
  | .null => .ok .null
  | .boolean b => .ok (.boolean b)
  | .integer .u128 n => .ok (.text ("UHugeInt(" ++ toString n ++ ")"))
  | .integer _ n => .ok (ofInteger n)
  | .real x => .ok (.real x)
  | .decimal numeral => .ok (.numeric numeral)
  | .text octets => .ok (.text (Text.display octets))
  | .blob octets => .ok (.blob octets)
  | .geometry octets => .ok (.text ("Geometry(" ++ showOctets octets ++ ")"))
  | .date days =>
    let date := Date.ofNumber (Date.epochNumber + days)
    .ok (if date.inRange then .text date.render else .integer days.toInt64)
  | .timestamp unit count =>
    match Instant.ofMicros? (micros unit count).toInt with
    | some instant => .ok (.timestamp instant)
    | none => .ok (.integer (micros unit count))
  | .time unit count =>
    match Calendar.renderTime? (micros unit count).toInt with
    | some shown => .ok (.text shown)
    | none => .ok (.integer (micros unit count))
  | .interval months days nanos =>
    .ok (.text ("P" ++ toString months ++ "M" ++ toString days ++ "DT" ++ toString nanos ++ "N"))
  | .other shown => .ok (.text shown)
  | .unreadable message => .error message

/-- The JSON form of a value. Doubles that are no numbers and no finite ones are texts. -/
def toJson : Value → Json
  | .null => .null
  | .integer n => .integer n.toInt
  | .real x => if x.isFinite then .float x else .string x.nonFiniteWord
  | .numeric numeral => .string numeral
  | .text s => .string s
  | .blob octets => .string (Text.base64 octets)
  | .boolean b => .bool b
  | .timestamp instant => .string instant.render

end Value
end DataShelf.Query
