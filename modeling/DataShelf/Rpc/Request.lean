import DataShelf.Json.Decoder

/-!
# Requests

A request without an id is a notification. An id that is there and null is an id: `Request.id` keeps
the two apart.
-/

namespace DataShelf.Rpc
set_option autoImplicit false

/-- The version that every message names. -/
def version : String := "2.0"

/-- What a request is known by. -/
inductive RequestId where
  | text (s : String)
  | number (n : Int)
  | null
  deriving DecidableEq, Repr

namespace RequestId

/-- The greatest integer that is an id. -/
def greatest : Int := Nat.pow 2 63 - 1

/-- The id that a value is: a text, an integer of 64 bits with sign, or null. -/
def ofJson? : Json → Option RequestId
  | .string s => some (.text s)
  | .integer n => if n ≤ greatest then some (.number n) else none
  | .null => some .null
  | _ => none

def toJson : RequestId → Json
  | .text s => .string s
  | .number n => .integer n
  | .null => .null

/-- Why a value is no id. -/
def mismatch : Json.Mismatch := .noVariant "RequestId"

def decoder : Json.Decoder RequestId where
  ofText depth cs :=
    match Json.value depth cs with
    | .error f => .error f
    | .ok (j, rest) =>
      match ofJson? j with
      | some id => .ok (id, rest)
      | none => .error (.loose mismatch rest)
  ofJson j :=
    match ofJson? j with
    | some id => .ok id
    | none => .error mismatch

@[simp] theorem ofJson?_toJson_text (s : String) :
    ofJson? (toJson (.text s)) = some (.text s) := rfl

@[simp] theorem ofJson?_toJson_null : ofJson? (toJson .null) = some .null := rfl

end RequestId

/-- A call of a method, or a notification. -/
structure Request where
  version : String
  id : Option RequestId
  method : String
  params : Option Json
  deriving Inhabited

namespace Request

/-- Notifications carry no id. -/
def isNotification (r : Request) : Bool := r.id.isNone

def layout : Json.Layout Request where
  title := "struct JsonRpcRequest"
  fields := [
    .required "jsonrpc" .string fun s r => { r with version := s },
    .defaulted "id" RequestId.decoder fun id r => { r with id := some id },
    .required "method" .string fun s r => { r with method := s },
    .defaulted "params" (.option .any) fun p r => { r with params := p }]
  blank := ⟨"", none, "", none⟩

def decoder : Json.Decoder Request := layout.decoder

def toJson (r : Request) : Json := .record [
  ("jsonrpc", some (.string r.version)),
  ("id", r.id.map RequestId.toJson),
  ("method", some (.string r.method)),
  ("params", r.params)]

end Request
end DataShelf.Rpc
