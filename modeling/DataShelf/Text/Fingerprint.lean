import DataShelf.Text.Utf8
import DataShelf.Text.Hex

/-!
# Fingerprints of statements

The 64-bit FNV-1a hash of a text's octets: exclusive or with the octet, then multiplication by the
prime, in 64-bit arithmetic.
-/

namespace DataShelf.Text
set_option autoImplicit false

/-- FNV-1a over octets, from the offset basis. -/
def fnv1a (bytes : List UInt8) : UInt64 :=
  bytes.foldl (fun h b => (h ^^^ b.toUInt64) * 0x100000001b3) 0xcbf29ce484222325

/-- The hash of a text as sixteen hexadecimal digits. -/
def fingerprint (s : String) : String :=
  String.ofList (hexDigits 16 (fnv1a (octets s)).toNat)

end DataShelf.Text
