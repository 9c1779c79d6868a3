import DataShelf.Json.Writer
import DataShelf.Trace

/-!
# The output budget

A result of more octets than the budget allows is not cut but replaced by a notice that says so.
-/

namespace DataShelf.Server
set_option autoImplicit false

/-- How many octets a result may have. -/
structure Budget where
  limit : Nat
  deriving DecidableEq, Inhabited, Repr

namespace Budget

/-- The budget where none is set: one mebibyte. -/
def usual : Budget := ⟨1024 * 1024⟩

/-- Why a size is beyond the budget, if it is. -/
def refusal? (b : Budget) (size : Nat) : Option String :=
  if b.limit < size then
    some ("Output too large: " ++ toString size ++ " bytes exceeds limit of " ++
      toString b.limit ++ " bytes")
  else none

/-- What stands in the place of a result of a size beyond the budget. -/
def notice (b : Budget) (size : Nat) : String := Json.compact (.object [
  ("truncated", .bool true),
  ("max_bytes", .nat b.limit),
  ("original_bytes", .nat size),
  ("message", .string "Response exceeded size limit. Add a LIMIT or filters.")])

/-- A result that fits as it is, and the notice for any other. Answers also whether it did not
fit. -/
def enforce (b : Budget) (content : String) : Traced (String × Bool) :=
  match b.refusal? content.utf8ByteSize with
  | none => return (content, false)
  | some message => do
    Traced.warn message
    return (b.notice content.utf8ByteSize, true)

end Budget
end DataShelf.Server
