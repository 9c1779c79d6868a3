/-!
# Ranges of code points

A property of characters is kept as the closed ranges of code points that have it, in ascending
order and apart from each other.
-/

namespace DataShelf.Text
set_option autoImplicit false

/-- Whether a code point lies in one of the closed ranges of a table. -/
def inRanges (table : Array (Nat × Nat)) (n : Nat) : Bool :=
  table.any fun range => range.1 ≤ n && n ≤ range.2

/-- Whether a character lies between two code points, both included. -/
def isBetween (first last : Nat) (c : Char) : Bool := first ≤ c.toNat && c.toNat ≤ last

end DataShelf.Text
