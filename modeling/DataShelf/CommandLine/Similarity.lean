import DataShelf.Number.Double

/-!
# Words that look alike

The likeness of two words by Jaro: characters match if they are the same and not too far apart, and
matches out of order count half. The measure is the mean of three shares, computed in floating
point, and words that come out equal stay in their order.
-/

namespace DataShelf.CommandLine
set_option autoImplicit false

open Number (Double)

namespace Likeness

/-- How far apart matching characters may be. -/
def reach (a b : Nat) : Nat := max a b / 2 - 1

/-- Marks the first free place of a character between two bounds. -/
def claim? (c : Char) (low high : Nat) :
    (index : Nat) → List (Char × Bool) → Option (List (Char × Bool))
  | _, [] => none
  | index, (d, taken) :: rest =>
    if high ≤ index then none
    else if low ≤ index && c == d && !taken then some ((d, true) :: rest)
    else (claim? c low high (index + 1) rest).map ((d, taken) :: ·)

/-- Matches the characters of a word, from left to right, with those of another one. Answers the
characters that found a match, and the other word with its matched places marked. -/
def matchUp (reach : Nat) :
    (index : Nat) → List Char → List (Char × Bool) → List Char × List (Char × Bool)
  | _, [], marks => ([], marks)
  | index, c :: cs, marks =>
    match claim? c (index - reach) (index + reach + 1) 0 marks with
    | some marks =>
      let (found, marks) := matchUp reach (index + 1) cs marks
      (c :: found, marks)
    | none => matchUp reach (index + 1) cs marks

/-- The share that one number has in another. -/
def share (part whole : Nat) : Double := Double.ofRatio false part whole

/-- The likeness of two words. -/
def of (a b : String) : Double :=
  let (found, marks) :=
    matchUp (reach a.length b.length) 0 a.toList (b.toList.map fun c => (c, false))
  let placed := (marks.filter (·.2)).map (·.1)
  let matched := found.length
  if a.isEmpty && b.isEmpty then share 1 1
  else if matched = 0 then share 0 1
  else
    let outOfOrder := ((found.zip placed).filter fun p => p.1 != p.2).length / 2
    (((share matched a.length).add (share matched b.length)).add
      (share (matched - outOfOrder) matched)).div (share 3 1)

/-- Whether words are alike enough to suggest one for the other. -/
def isClose (x : Double) : Bool := !x.le (share 7 10)

end Likeness

/-- The words that are alike enough to a given one, the most alike last. -/
def similarTo (word : String) (known : List String) : List String :=
  let rated := (known.map fun k => (k, Likeness.of word k)).filter fun r => Likeness.isClose r.2
  (rated.mergeSort fun a b => a.2.le b.2).map (·.1)

end DataShelf.CommandLine
