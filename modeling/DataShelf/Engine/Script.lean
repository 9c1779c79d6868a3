import DataShelf.Engine.Basic

/-!
# Engines that follow a script

A script lists what an engine answers to which statement. The first entry for a statement applies,
where the pattern `*` stands for any. A batch statement without an entry succeeds, a query without
one cannot be prepared, and a statement with the character U+0000 in it never gets that far. Where a
script has an integer for a count, the cell holds its low bits.
-/

namespace DataShelf.Engine
set_option autoImplicit false

instance : Coe Int Int32 := ⟨Int32.ofInt⟩

instance : Coe Int Int64 := ⟨Int64.ofInt⟩

/-- What is said about the statements that a pattern covers. -/
structure Script.Entry (α : Type) where
  pattern : String
  reply : α

/-- What an engine is to answer. -/
structure Script where
  openFailure : Option String
  closeFailure : Option String
  batches : List (Script.Entry String)
  queries : List (Script.Entry Answer)

namespace Script

/-- The script of an engine that knows no query. -/
def empty : Script := ⟨none, none, [], []⟩

/-- The reply of the first entry for a statement. -/
def reply? {α : Type} (entries : List (Entry α)) (sql : String) : Option α :=
  (entries.find? fun e => e.pattern == sql || e.pattern == "*").map (·.reply)

/-- The octets of a text before its first U+0000, if there is one. -/
def nullPosition? (sql : String) : Option Nat :=
  if sql.toList.contains '\x00' then
    some ((sql.toList.takeWhile (· != '\x00')).foldl (fun n c => n + c.utf8Size) 0)
  else none

/-- Why a statement cannot be sent at all, if it cannot. -/
def unsendable? (sql : String) : Option String :=
  (nullPosition? sql).map fun n => "nul byte found in provided data at position: " ++ toString n

/-- Rows, cut off before one whose fetch fails if there is such a row. -/
def rowsOf : List (List Cell) → Option (Nat × String) → Rows
  | _, some (0, message) => .failed message
  | [], _ => .done
  | cells :: rest, none => .row cells (rowsOf rest none)
  | cells :: rest, some (n + 1, message) => .row cells (rowsOf rest (some (n, message)))

/-- The engine that follows a script. It has no memory of what was sent before. -/
def engine (s : Script) : Engine where
  openFailure := s.openFailure
  batch _ sql :=
    match unsendable? sql with
    | some message => some message
    | none => reply? s.batches sql
  query _ sql :=
    match unsendable? sql with
    | some message => .unprepared message
    | none => (reply? s.queries sql).getD (.unprepared ("no scripted answer for: " ++ sql))
  closeFailure _ := s.closeFailure

end Script
end DataShelf.Engine
