/-!
# White space

The Unicode property `White_Space`, and the trims that rest on it. `trim` leaves a text that
neither begins nor ends in white space.
-/

namespace DataShelf.Text
set_option autoImplicit false

/-- The characters with the Unicode property `White_Space`. -/
def isBlank (c : Char) : Bool :=
  let n := c.toNat
  (0x09 ≤ n && n ≤ 0x0D) || n == 0x20 || n == 0x85 || n == 0xA0 || n == 0x1680 ||
  (0x2000 ≤ n && n ≤ 0x200A) || n == 0x2028 || n == 0x2029 || n == 0x202F || n == 0x205F ||
  n == 0x3000

/-- Drops the longest suffix whose members satisfy `p`. -/
def dropEndWhile (p : Char → Bool) (cs : List Char) : List Char :=
  (cs.reverse.dropWhile p).reverse

/-- Drops white space at the beginning. -/
def trimStart (cs : List Char) : List Char := cs.dropWhile isBlank

/-- Drops white space at the end. -/
def trimEnd (cs : List Char) : List Char := dropEndWhile isBlank cs

/-- Drops white space at both ends. -/
def trim (cs : List Char) : List Char := trimEnd (trimStart cs)

/-- A text of white space only, the empty one included. -/
def isAllBlank (s : String) : Bool := s.toList.all isBlank

/-- The first run of characters that are not white space, if there is one. -/
def firstWord? (s : String) : Option String :=
  match (trimStart s.toList).takeWhile (fun c => !isBlank c) with
  | [] => none
  | word => some (String.ofList word)

end DataShelf.Text
