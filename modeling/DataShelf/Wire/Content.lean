import DataShelf.Json.Decoder

/-!
# Content of a tool's answer

A content block is an object whose `type` says what kind it is; the one kind is text. As a list it
has its kind first. The entries besides the kind are set aside until the kind is known, so faults in
them have no place of their own.
-/

namespace DataShelf.Wire
set_option autoImplicit false

open Json (Reading Fault Mismatch)

/-- A piece of a tool's answer. -/
structure ContentBlock where
  text : String
  deriving DecidableEq, Inhabited, Repr

namespace ContentBlock

/-- The kind of a text block. -/
def kind : String := "text"

/-- What is wanted where there is neither an object nor a list. -/
def title : String := "internally tagged enum ContentBlock"

/-- What is wrong with the value of `type`, if anything is. -/
def kindMismatch? : Json → Option Mismatch
  | .string s => if s = kind then none else some (.unknownVariant s [kind])
  | j => some (.ofValue j "variant identifier")

/-- The text of a block from what stands beside its kind. -/
def ofEntries (entries : List (String × Json)) : Except Mismatch ContentBlock :=
  match entries.filter (·.1 == "text") with
  | [] => .error (.missingField "text")
  | (_, .string s) :: rest => if rest.isEmpty then .ok ⟨s⟩ else .error (.duplicateField "text")
  | (_, j) :: _ => .error (.ofValue j "a string")

/-- The text of a block from what follows its kind in a list. -/
def ofItems : List Json → Except Mismatch ContentBlock
  | [] => .error (.wrongLength 0 "struct variant ContentBlock::Text with 1 element")
  | [.string s] => .ok ⟨s⟩
  | .string _ :: rest => .error (.wrongLength (rest.length + 1) "1 element in sequence")
  | j :: _ => .error (.ofValue j "a string")

/-- Reads the kind of a block. -/
def readKind (cs : List Char) : Except Fault (Unit × List Char) :=
  match Json.skipSpace cs with
  | [] => Json.stopPeeked .endInValue []
  | c :: rest =>
    if c == '[' || c == '\x7b' then Json.Decoder.wrongTypeHere "variant identifier" (c :: rest)
    else do
      let (j, rest) ← Json.scalar (c :: rest)
      match kindMismatch? j with
      | none => .ok ((), rest)
      | some m => Json.Decoder.refuse m rest

/-- Reads the members of a block: the entries besides its kind, in order. -/
def readMembers (depth : Nat) :
    (clock : List Char) → (first seen : Bool) → List Char →
      Except Fault (List (String × Json) × List Char)
  | [], first, _, cs => (Json.nextKey first cs).bind fun r => .ok ([], r.2)
  | _ :: ticks, first, seen, cs => do
    let (more, rest) ← Json.nextKey first cs
    if more then
      let (key, rest) ← Json.text (rest.drop 1)
      if key == "type" then
        if seen then .error (.loose (.duplicateField "type") rest)
        else
          let (_, rest) ← Json.colon rest
          let (_, rest) ← readKind rest
          readMembers depth ticks false true rest
      else
        let (_, rest) ← Json.colon rest
        let (j, rest) ← Json.value depth rest
        let (entries, rest) ← readMembers depth ticks false seen rest
        .ok ((key, j) :: entries, rest)
    else if seen then .ok ([], rest)
    else .error (.loose (.missingField "type") rest)

/-- Reads the elements of a block in its list form: its kind and what follows that. -/
def readElements (depth : Nat) (cs : List Char) : Except Fault (List Json × List Char) := do
  let (more, rest) ← Json.nextElement true cs
  if more then
    let (_, rest) ← readKind rest
    Json.items Json.nextElement (Json.value depth) rest false rest
  else .error (.loose (.missingField "type") rest)

/-- A block from what was set aside. -/
def settle {α : Type} (make : α → Except Mismatch ContentBlock) (read : Reading α) :
    Reading ContentBlock :=
  match read with
  | .error f => .error f
  | .ok (a, rest) =>
    match make a with
    | .ok block => .ok (block, rest)
    | .error m => .error (.loose m rest)

/-- Reads a block from text. -/
def ofText (depth : Nat) (cs : List Char) : Reading ContentBlock :=
  match Json.skipSpace cs with
  | [] => Json.stopPeeked .endInValue []
  | c :: rest =>
    if c == '\x7b' then
      match depth with
      | 0 => Json.stopPeeked .tooDeep (c :: rest)
      | inner + 1 =>
        settle ofEntries (Json.closing Json.closeObject (readMembers inner rest true false rest))
    else if c == '[' then
      match depth with
      | 0 => Json.stopPeeked .tooDeep (c :: rest)
      | inner + 1 => settle ofItems (Json.closing Json.closeList (readElements inner rest))
    else Json.Decoder.wrongTypeHere title (c :: rest)

/-- Takes a block out of a value. -/
def ofJson : Json → Except Mismatch ContentBlock
  | .object fields =>
    match Json.lookup? "type" fields with
    | none => .error (.missingField "type")
    | some j =>
      match kindMismatch? j with
      | some m => .error m
      | none => ofEntries (fields.filter (·.1 != "type"))
  | .array [] => .error (.missingField "type")
  | .array (j :: items) =>
    match kindMismatch? j with
    | some m => .error m
    | none => ofItems items
  | j => .error (.ofValue j title)

def decoder : Json.Decoder ContentBlock := ⟨ofText, ofJson⟩

def toJson (b : ContentBlock) : Json :=
  .object [("type", .string kind), ("text", .string b.text)]

end ContentBlock
end DataShelf.Wire
