import DataShelf.Text.Hex
import DataShelf.Text.Utf8

/-!
# Percent encoding

Each octet but letters, digits and `-._~` is written as a percent sign and two hexadecimal digits.
Reading leaves a percent sign alone that no two digits follow; the octets read must be text.
-/

namespace DataShelf.Text
set_option autoImplicit false

/-- The octets that stand for themselves. -/
def isUnreserved (b : UInt8) : Bool :=
  (48 ≤ b && b ≤ 57) || (65 ≤ b && b ≤ 90) || (97 ≤ b && b ≤ 122) ||
  b == 45 || b == 46 || b == 95 || b == 126

/-- An octet as it is written. -/
def percentOctet (b : UInt8) : List Char :=
  if isUnreserved b then [Char.ofNat b.toNat]
  else ['%', hexDigitUpper (b.toNat / 16), hexDigitUpper (b.toNat % 16)]

/-- A text with its octets percent-encoded. -/
def percentEncode (s : String) : String := String.ofList ((octets s).flatMap percentOctet)

/-- The value of an octet that is a hexadecimal digit. -/
def octetHexValue? (b : UInt8) : Option Nat := hexValue? (Char.ofNat b.toNat)

/-- Octets with each percent sign and its two digits read as one octet. -/
def percentOctets : List UInt8 → List UInt8
  | b :: h :: l :: rest =>
    if b == 37 then
      match octetHexValue? h, octetHexValue? l with
      | some high, some low => UInt8.ofNat (high * 16 + low) :: percentOctets rest
      | _, _ => b :: percentOctets (h :: l :: rest)
    else b :: percentOctets (h :: l :: rest)
  | few => few

/-- The text that a percent-encoded text stands for, if its octets are text. -/
def percentDecode? (s : String) : Option String := ofOctets? (percentOctets (octets s))

end DataShelf.Text
