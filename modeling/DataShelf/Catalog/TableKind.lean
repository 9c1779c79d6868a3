import DataShelf.Catalog.Table

/-!
# Table kinds on the wire

A kind is written as its name. It is read from its name, or from an object whose one key is the name
and whose value is null.
-/

namespace DataShelf.Catalog.TableKind
set_option autoImplicit false

open Json (Reading Fault Mismatch)

/-- What is wanted where there is neither a name nor an object. -/
def title : String := "enum TableKind"

/-- The names of the kinds. -/
def known : List String := [name .parquet, name .sqlScript]

def ofName? (s : String) : Option TableKind :=
  if s = name .parquet then some .parquet else if s = name .sqlScript then some .sqlScript else none

/-- Reads a name of a kind, behind its quote. -/
def readName (cs : List Char) : Except Fault (TableKind × List Char) := do
  let (s, rest) ← Json.text cs
  match ofName? s with
  | some k => .ok (k, rest)
  | none => Json.Decoder.refuse (.unknownVariant s known) rest

/-- Reads the null behind a kind that is a key. -/
def readNull (cs : List Char) : Except Fault (Unit × List Char) :=
  match Json.skipSpace cs with
  | [] => Json.stopPeeked .endInValue []
  | c :: rest =>
    if c == '[' || c == '\x7b' then Json.Decoder.wrongTypeHere "unit" (c :: rest)
    else do
      let (j, rest) ← Json.scalar (c :: rest)
      match j with
      | .null => .ok ((), rest)
      | j => Json.Decoder.refuse (.ofValue j "unit") rest

/-- Reads what is in the object of a kind, behind the quote of its key. -/
def readMember (cs : List Char) : Except Fault (TableKind × List Char) := do
  let (kind, rest) ← readName cs
  let (_, rest) ← Json.colon rest
  let (_, rest) ← readNull rest
  match Json.skipSpace rest with
  | [] => Json.stopAt .endInObject []
  | c :: rest => if c == '\x7d' then .ok (kind, rest) else Json.stopAt .wantsValue (c :: rest)

/-- Reads a kind as an object, behind its brace. -/
def readObject (cs : List Char) : Except Fault (TableKind × List Char) := do
  match ← Json.nextKey true cs with
  | (true, _ :: rest) => readMember rest
  | (_, rest) => Json.stopPeeked .wantsValue rest

/-- Reads a kind from text. -/
def ofText (depth : Nat) (cs : List Char) : Reading TableKind :=
  match Json.skipSpace cs with
  | [] => Json.stopPeeked .endInValue []
  | c :: rest =>
    if c == '\x7b' then
      if depth = 0 then Json.stopPeeked .tooDeep (c :: rest) else readObject rest
    else if c == '"' then readName rest
    else Json.stopPeeked .wantsValue (c :: rest)

/-- Takes a kind out of a value. -/
def ofJson : Json → Except Mismatch TableKind
  | .string s =>
    match ofName? s with
    | some k => .ok k
    | none => .error (.unknownVariant s known)
  | .object [(key, j)] =>
    match ofName? key with
    | none => .error (.unknownVariant key known)
    | some k => if j.isNull then .ok k else .error (.ofValue j "unit")
  | .object _ => .error (.wrongValue "map" "map with a single key")
  | j => .error (.ofValue j "string or map")

def decoder : Json.Decoder TableKind := ⟨ofText, ofJson⟩

def toJson (k : TableKind) : Json := .string k.name

end DataShelf.Catalog.TableKind
