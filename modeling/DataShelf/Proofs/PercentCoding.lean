import DataShelf.Proofs.Octets
import DataShelf.Text.Percent

/-!
# Percent encoding is undone by reading

An encoded text consists of characters that stand for one octet each, none of them a slash
(`slash_notMem_percentEncode`), so it can be cut out of a path as it was put in. Reading it gives the
text back, whatever characters are in it (`percentDecode?_percentEncode`), and only nothing is read
as nothing (`percentDecode?_eq_empty_iff`).
-/

namespace DataShelf.Text
set_option autoImplicit false

/-! ### Characters of one octet -/

/-- A text of characters below 128 has an octet for each. -/
theorem octets_ofList {cs : List Char} (small : ∀ c ∈ cs, c.toNat < 128) :
    octets (String.ofList cs) = cs.map Char.toUInt8 := by
  rw [octets_eq_flatMap, String.toList_ofList]
  induction cs with
  | nil => rfl
  | cons c cs ih =>
    obtain ⟨here, later⟩ := List.forall_mem_cons.1 small
    have one : c.utf8Size = 1 := by
      rw [Char.utf8Size_eq_one_iff, UInt32.le_iff_toNat_le]
      exact Nat.le_of_lt_succ here
    rw [List.flatMap_cons, String.utf8EncodeChar_eq_singleton one, ih later]
    rfl

/-- A hexadecimal digit is below 128 and is no slash. -/
theorem code_hexDigitUpper : ∀ n < 16, (hexDigitUpper n).toNat < 128 ∧ hexDigitUpper n ≠ '/' := by
  decide

/-- A hexadecimal digit is read as its value. -/
theorem octetHexValue?_hexDigitUpper :
    ∀ n < 16, octetHexValue? (hexDigitUpper n).toUInt8 = some n := by
  decide

/-! ### One octet -/

theorem octet_high (b : UInt8) : b.toNat / 16 < 16 := by
  have := b.toNat_lt
  omega

theorem octet_low (b : UInt8) : b.toNat % 16 < 16 := Nat.mod_lt _ (by decide)

/-- What stands for itself is below 128, and neither a percent sign nor a slash. -/
theorem isUnreserved_bounds {b : UInt8} (own : isUnreserved b) :
    b.toNat < 128 ∧ b ≠ 37 ∧ b ≠ 47 := by
  simp only [isUnreserved, Bool.or_eq_true, Bool.and_eq_true, decide_eq_true_eq, beq_iff_eq,
    UInt8.le_iff_toNat_le, ← UInt8.toNat_inj, UInt8.reduceToNat] at own
  simp only [ne_eq, ← UInt8.toNat_inj, UInt8.reduceToNat]
  omega

/-- A character of the code of an octet has that code. -/
theorem toNat_ofNat_octet (b : UInt8) : (Char.ofNat b.toNat).toNat = b.toNat := by
  have small := b.toNat_lt
  rw [Char.ofNat, dif_pos (.inl (by omega))]
  rfl

/-- The characters that an octet is written with have one octet each, and none is a slash. -/
theorem code_percentOctet {b : UInt8} {c : Char} (member : c ∈ percentOctet b) :
    c.toNat < 128 ∧ c ≠ '/' := by
  unfold percentOctet at member
  split at member
  · next own =>
    obtain ⟨small, -, other⟩ := isUnreserved_bounds own
    obtain rfl := List.mem_singleton.1 member
    refine ⟨by rwa [toNat_ofNat_octet], fun same => other ?_⟩
    rw [← UInt8.toNat_inj, ← toNat_ofNat_octet, same]
    rfl
  · simp only [List.mem_cons, List.not_mem_nil, or_false] at member
    rcases member with rfl | rfl | rfl
    · decide
    · exact code_hexDigitUpper _ (octet_high b)
    · exact code_hexDigitUpper _ (octet_low b)

/-- Any octet but a percent sign is read as itself. -/
theorem percentOctets_cons {b : UInt8} (other : b ≠ 37) (rest : List UInt8) :
    percentOctets (b :: rest) = b :: percentOctets rest := by
  match rest with
  | [] => rfl
  | [_] => rfl
  | h :: l :: rest => rw [percentOctets, if_neg (by simpa using other)]

/-- An octet as it is written is read as the octet. -/
theorem percentOctets_percentOctet (b : UInt8) (rest : List UInt8) :
    percentOctets ((percentOctet b).map Char.toUInt8 ++ rest) = b :: percentOctets rest := by
  unfold percentOctet
  split
  · next own =>
    have same : (Char.ofNat b.toNat).toUInt8 = b := by
      show UInt8.ofNat (Char.ofNat b.toNat).toNat = b
      rw [toNat_ofNat_octet, UInt8.ofNat_toNat]
    rw [List.map_singleton, List.singleton_append, same]
    exact percentOctets_cons (isUnreserved_bounds own).2.1 rest
  · have sign : '%'.toUInt8 = 37 := rfl
    have whole : b.toNat / 16 * 16 + b.toNat % 16 = b.toNat := Nat.div_add_mod' _ _
    simp only [List.map_cons, List.map_nil, List.cons_append, List.nil_append, sign]
    rw [percentOctets, if_pos (beq_self_eq_true _)]
    simp only [octetHexValue?_hexDigitUpper _ (octet_high b),
      octetHexValue?_hexDigitUpper _ (octet_low b), whole, UInt8.ofNat_toNat]

/-! ### Texts -/

/-- A text is encoded octet by octet. -/
theorem toList_percentEncode (s : String) :
    (percentEncode s).toList = (octets s).flatMap percentOctet :=
  String.toList_ofList

/-- What is encoded is below 128 and has no slash. -/
theorem code_percentEncode {s : String} {c : Char} (member : c ∈ (percentEncode s).toList) :
    c.toNat < 128 ∧ c ≠ '/' := by
  rw [toList_percentEncode] at member
  obtain ⟨b, -, inside⟩ := List.mem_flatMap.1 member
  exact code_percentOctet inside

theorem slash_notMem_percentEncode (s : String) : '/' ∉ (percentEncode s).toList :=
  fun member => (code_percentEncode member).2 rfl

/-- Encoded octets are decoded to themselves. -/
theorem percentOctets_flatMap (bytes : List UInt8) :
    percentOctets ((bytes.flatMap percentOctet).map Char.toUInt8) = bytes := by
  induction bytes with
  | nil => rfl
  | cons b bytes ih =>
    rw [List.flatMap_cons, List.map_append, percentOctets_percentOctet, ih]

/-- An encoded text is read as the text. -/
theorem percentDecode?_percentEncode (s : String) : percentDecode? (percentEncode s) = some s := by
  have small : ∀ c ∈ (octets s).flatMap percentOctet, c.toNat < 128 := by
    intro c member
    rw [← toList_percentEncode] at member
    exact (code_percentEncode member).1
  rw [percentDecode?, percentEncode, octets_ofList small, percentOctets_flatMap, ofOctets?_octets]

theorem percentOctets_eq_nil_iff {bytes : List UInt8} : percentOctets bytes = [] ↔ bytes = [] := by
  fun_cases percentOctets bytes <;> simp_all

theorem octets_eq_nil_iff {s : String} : octets s = [] ↔ s = "" := by
  constructor
  · intro none
    have read := ofOctets?_octets s
    rw [none] at read
    exact (Option.some.inj read).symm
  · rintro rfl
    rfl

/-- Only nothing is read as nothing. -/
theorem percentDecode?_eq_empty_iff {s : String} : percentDecode? s = some "" ↔ s = "" := by
  constructor
  · intro read
    have nothing : percentOctets (octets s) = [] := (octets_of_ofOctets? read).symm
    exact octets_eq_nil_iff.1 (percentOctets_eq_nil_iff.1 nothing)
  · rintro rfl
    rfl

theorem percentEncode_eq_empty_iff {s : String} : percentEncode s = "" ↔ s = "" := by
  rw [← percentDecode?_eq_empty_iff, percentDecode?_percentEncode, Option.some.injEq]

end DataShelf.Text
