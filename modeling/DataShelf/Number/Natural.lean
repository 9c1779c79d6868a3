/-!
# Naturals of 64 bits in text

Decimal digits, with a plus sign before them if one likes. The digits are taken from left to right,
and the first one that cannot be taken decides what is wrong.
-/

namespace DataShelf.Number
set_option autoImplicit false

/-- Why a text is no natural of 64 bits. -/
inductive NaturalFault where
  | empty
  | notADigit
  | tooLarge
  deriving DecidableEq, Repr

/-- The words for a fault. -/
def NaturalFault.message : NaturalFault → String
  | .empty => "cannot parse integer from empty string"
  | .notADigit => "invalid digit found in string"
  | .tooLarge => "number too large to fit in target type"

/-- The value of a decimal digit. -/
def digit? (c : Char) : Option Nat := if c.isDigit then some (c.toNat - '0'.toNat) else none

/-- Takes one more digit behind those of a number. -/
def pushDigit (n : Nat) (c : Char) : Except NaturalFault Nat :=
  match digit? c with
  | none => .error .notADigit
  | some d => if 10 * n + d < Nat.pow 2 64 then .ok (10 * n + d) else .error .tooLarge

/-- The natural that a text denotes. -/
def readNatural (s : String) : Except NaturalFault Nat :=
  match s.toList with
  | [] => .error .empty
  | ['+'] => .error .notADigit
  | '+' :: digits => digits.foldlM pushDigit 0
  | digits => digits.foldlM pushDigit 0

end DataShelf.Number
