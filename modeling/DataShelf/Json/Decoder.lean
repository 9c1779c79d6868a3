import DataShelf.Json.Skip

/-!
# Decoding

A decoder takes a value of a type out of JSON: straight from text, where a fault has a line and a
column, or from a value that has been read already, where it has none. Records decode from objects
by name and from lists by position.
-/

namespace DataShelf.Json
set_option autoImplicit false

/-- How a value of a type is taken from text, under a number of nestings still allowed, and from a
JSON value. -/
structure Decoder (α : Type) where
  ofText : Nat → List Char → Reading α
  ofJson : Json → Except Mismatch α

/-- Decodes a whole text. -/
def Decoder.decodeText {α : Type} (d : Decoder α) (s : String) : Except Fault α :=
  whole (d.ofText nestings) s.toList

namespace Decoder

/-- A decoder whose outcome is put to use by a function. -/
def map {α β : Type} (f : α → β) (d : Decoder α) : Decoder β where
  ofText depth cs := (d.ofText depth cs).map fun r => (f r.1, r.2)
  ofJson j := (d.ofJson j).map f

/-- A located fault at the end of what was taken. -/
def refuse {α : Type} (m : Mismatch) (rest : List Char) : Except Fault α :=
  .error (.at (.mismatch m) ⟨rest, 0⟩)

/-- Refuses the value in front of a text for its type. Scalars are read first, so a fault in them
comes before the fault of their type. -/
def wrongTypeHere {α : Type} (wanted : String) (cs : List Char) : Except Fault α :=
  match cs with
  | [] => stopPeeked .endInValue []
  | c :: rest =>
    if c == '[' then refuse (.wrongType "sequence" wanted) (c :: rest)
    else if c == '\x7b' then refuse (.wrongType "map" wanted) (c :: rest)
    else
      match scalar (c :: rest) with
      | .ok (j, rest) => refuse (.ofValue j wanted) rest
      | .error f => .error f

/-- Any value, as it is. -/
def any : Decoder Json := ⟨value, .ok⟩

/-- A decoder for one kind of scalar: reads the scalar and takes or refuses it by value. -/
def scalarOf {α : Type} (wanted : String) (take : Json → Option (Except Mismatch α)) :
    Decoder α where
  ofText _ cs :=
    match skipSpace cs with
    | [] => stopPeeked .endInValue []
    | c :: rest =>
      if c == '[' || c == '\x7b' then wrongTypeHere wanted (c :: rest)
      else
        match scalar (c :: rest) with
        | .error f => .error f
        | .ok (j, rest) =>
          match take j with
          | some (.ok a) => .ok (a, rest)
          | some (.error m) => refuse m rest
          | none => refuse (.ofValue j wanted) rest
  ofJson j := (take j).getD (.error (.ofValue j wanted))

def string : Decoder String :=
  scalarOf "a string" fun | .string s => some (.ok s) | _ => none

def bool : Decoder Bool :=
  scalarOf "a boolean" fun | .bool b => some (.ok b) | _ => none

/-- An integer of 32 bits. -/
def int32 : Decoder Int :=
  scalarOf "i32" fun
    | .integer n =>
      some (if -(Nat.pow 2 31 : Int) ≤ n ∧ n < Nat.pow 2 31 then .ok n
            else .error (.wrongValue (Json.integer n).describe "i32"))
    | _ => none

/-- A value or null. -/
def option {α : Type} (d : Decoder α) : Decoder (Option α) where
  ofText depth cs :=
    match skipSpace cs with
    | 'n' :: rest => (word ['u', 'l', 'l'] rest).map fun r => (none, r.2)
    | rest => (d.ofText depth rest).map fun r => (some r.1, r.2)
  ofJson
    | .null => .ok none
    | j => (d.ofJson j).map some

/-- A list. -/
def list {α : Type} (d : Decoder α) : Decoder (List α) where
  ofText depth cs :=
    match skipSpace cs with
    | [] => stopPeeked .endInValue []
    | '[' :: rest =>
      match depth with
      | 0 => stopPeeked .tooDeep ('[' :: rest)
      | inner + 1 => closing closeList (elements (d.ofText inner) rest)
    | cs => wrongTypeHere "a sequence" cs
  ofJson
    | .array items => items.mapM d.ofJson
    | j => .error (.ofValue j "a sequence")

/-- An object with any keys, in order; from text, a key may come more than once. -/
def dict {α : Type} (d : Decoder α) : Decoder (List (String × α)) where
  ofText depth cs :=
    match skipSpace cs with
    | [] => stopPeeked .endInValue []
    | '\x7b' :: rest =>
      match depth with
      | 0 => stopPeeked .tooDeep ('\x7b' :: rest)
      | inner + 1 => closing closeObject (members (d.ofText inner) rest)
    | cs => wrongTypeHere "a map" cs
  ofJson
    | .object fields => fields.mapM fun pair => (d.ofJson pair.2).map fun a => (pair.1, a)
    | j => .error (.ofValue j "a map")

end Decoder

/-! ### Records -/

/-- Whether a field may be left out: never, in objects only, or also at the end of a list. -/
inductive Presence where
  | required
  | optional
  | defaulted
  deriving DecidableEq, Repr

/-- A field of a record: how its value changes a record that does not have it yet. -/
structure Field (σ : Type) where
  name : String
  presence : Presence
  decoder : Decoder (σ → σ)

namespace Field

/-- A field that must be there. -/
def required {σ α : Type} (name : String) (d : Decoder α) (set : α → σ → σ) : Field σ :=
  ⟨name, .required, d.map set⟩

/-- A field that may be null, and that an object may leave out. -/
def optional {σ α : Type} (name : String) (d : Decoder α) (set : Option α → σ → σ) : Field σ :=
  ⟨name, .optional, (Decoder.option d).map set⟩

/-- A field that may be left out; its value then is that of the blank record. -/
def defaulted {σ α : Type} (name : String) (d : Decoder α) (set : α → σ → σ) : Field σ :=
  ⟨name, .defaulted, d.map set⟩

end Field

/-- The fields of a record in the order of its list form, and the record without any of them. -/
structure Layout (σ : Type) where
  title : String
  fields : List (Field σ)
  blank : σ

namespace Layout

variable {σ : Type}

/-- The field of a name. -/
def field? (l : Layout σ) (name : String) : Option (Field σ) := l.fields.find? (·.name == name)

/-- The first field that must be there and was not seen. -/
def missing? (l : Layout σ) (seen : List String) : Option (Field σ) :=
  l.fields.find? fun f => f.presence == .required && !seen.contains f.name

/-- What is wanted where a list is too short. -/
def wantedLength (l : Layout σ) : String :=
  l.title ++ " with " ++ toString l.fields.length ++
    (if l.fields.length = 1 then " element" else " elements")

/-- Reads the members of an object into a record. Keys that are no fields go to `other`, which
answers what they change. -/
def ofMembers (l : Layout σ) (other : String → List Char → Reading (σ → σ)) (depth : Nat) :
    (clock : List Char) → (first : Bool) → (seen : List String) → σ → List Char →
      Except Fault (σ × List Char)
  | [], first, _, record, cs => (nextKey first cs).bind fun r => .ok (record, r.2)
  | _ :: ticks, first, seen, record, cs => do
    let (more, rest) ← nextKey first cs
    if more then
      let (key, rest) ← text (rest.drop 1)
      match l.field? key with
      | some f =>
        if seen.contains key then .error (.loose (.duplicateField key) rest)
        else
          let (_, rest) ← colon rest
          let (change, rest) ← f.decoder.ofText depth rest
          ofMembers l other depth ticks false (key :: seen) (change record) rest
      | none =>
        let (_, rest) ← colon rest
        let (change, rest) ← other key rest
        ofMembers l other depth ticks false seen (change record) rest
    else
      match l.missing? seen with
      | some f => .error (.loose (.missingField f.name) rest)
      | none => .ok (record, rest)

/-- Reads the elements of a list into the fields of a record, one after the other. -/
def ofElements (l : Layout σ) (depth : Nat) :
    List (Field σ) → (index : Nat) → σ → List Char → Except Fault (σ × List Char)
  | [], _, record, cs => .ok (record, cs)
  | f :: fields, index, record, cs => do
    let (more, rest) ← nextElement (index == 0) cs
    if more then
      let (change, rest) ← f.decoder.ofText depth rest
      ofElements l depth fields (index + 1) (change record) rest
    else if f.presence = .defaulted then ofElements l depth fields (index + 1) record rest
    else .error (.loose (.wrongLength index l.wantedLength) rest)

/-- Takes the fields of a record out of an object. -/
def ofFields (l : Layout σ) (other : String → Json → σ → σ) (fields : Fields) :
    Except Mismatch σ := do
  let take (record : σ) (pair : String × Json) : Except Mismatch σ :=
    match l.field? pair.1 with
    | some f => (f.decoder.ofJson pair.2).map fun change => change record
    | none => .ok (other pair.1 pair.2 record)
  let record ← fields.foldlM take l.blank
  match l.missing? (fields.map (·.1)) with
  | some f => .error (.missingField f.name)
  | none => .ok record

/-- Takes the fields of a record out of a list. -/
def ofItems (l : Layout σ) : List (Field σ) → (index : Nat) → σ → List Json → Except Mismatch σ
  | [], index, record, items =>
    if items.isEmpty then .ok record
    else .error (.wrongLength (index + items.length) "fewer elements in array")
  | f :: fields, index, record, [] =>
    if f.presence = .defaulted then ofItems l fields (index + 1) record []
    else .error (.wrongLength index l.wantedLength)
  | f :: fields, index, record, j :: items => do
    let change ← f.decoder.ofJson j
    ofItems l fields (index + 1) (change record) items

/-- The decoder of a record. Keys that are no fields are passed over. -/
def decoder (l : Layout σ) : Decoder σ where
  ofText depth cs :=
    match skipSpace cs with
    | [] => stopPeeked .endInValue []
    | c :: rest =>
      if c == '\x7b' then
        match depth with
        | 0 => stopPeeked .tooDeep (c :: rest)
        | inner + 1 =>
          let pass := fun _ cs => (skip cs).map fun r => (id, r.2)
          closing closeObject (l.ofMembers pass inner rest true [] l.blank rest)
      else if c == '[' then
        match depth with
        | 0 => stopPeeked .tooDeep (c :: rest)
        | inner + 1 => closing closeList (l.ofElements inner l.fields 0 l.blank rest)
      else Decoder.wrongTypeHere l.title (c :: rest)
  ofJson
    | .object fields => l.ofFields (fun _ _ record => record) fields
    | .array items => l.ofItems l.fields 0 l.blank items
    | j => .error (.ofValue j l.title)

/-- The decoder of a record that keeps the keys that are no fields. It has no list form. -/
def openDecoder (l : Layout σ) (other : String → Json → σ → σ) : Decoder σ where
  ofText depth cs :=
    match skipSpace cs with
    | [] => stopPeeked .endInValue []
    | c :: rest =>
      if c == '\x7b' then
        match depth with
        | 0 => stopPeeked .tooDeep (c :: rest)
        | inner + 1 =>
          let keep := fun key cs => (value inner cs).map fun r => (other key r.1, r.2)
          closing closeObject (l.ofMembers keep inner rest true [] l.blank rest)
      else Decoder.wrongTypeHere l.title (c :: rest)
  ofJson
    | .object fields => l.ofFields other fields
    | j => .error (.ofValue j l.title)

end Layout
end DataShelf.Json
