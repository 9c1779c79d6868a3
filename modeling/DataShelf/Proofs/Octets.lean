import DataShelf.Text.Utf8

/-!
# The octets of a text

A text has the octets of its characters, one after the other (`octets_eq_flatMap`), and an octet
below 128 stands for one character and is in no other (`mem_octets_iff`). A character has octets that
are before those of each later one, so texts are in the order of their octets (`octets_lt`).
-/

namespace DataShelf.Text
set_option autoImplicit false

theorem octets_append (s u : String) : octets (s ++ u) = octets s ++ octets u := by
  simp [octets]

/-- The octets of a text are those of its characters. -/
theorem octets_eq_flatMap (s : String) : octets s = s.toList.flatMap String.utf8EncodeChar := by
  rw [octets, String.toUTF8_eq_toByteArray, ← String.utf8Encode_toList, List.utf8Encode,
    List.data_toByteArray]

/-- An octet below 128 is among those of a character only if the character is of that code. -/
theorem mem_utf8EncodeChar_iff {b : UInt8} (small : b.toNat < 128) {c : Char} :
    b ∈ String.utf8EncodeChar c ↔ c.toNat = b.toNat := by
  have octet (n : Nat) : b = UInt8.ofNat n ↔ n % 256 = b.toNat := by
    rw [← UInt8.toNat_inj, UInt8.toNat_ofNat', eq_comm]
  show _ ↔ c.val.toNat = b.toNat
  unfold String.utf8EncodeChar
  dsimp only
  -- Characters of more than one octet have none below 128.
  repeat' split
  all_goals simp only [List.mem_cons, List.not_mem_nil, or_false, octet]
  all_goals omega

/-- An octet below 128 is in a text where its character is. -/
theorem mem_flatMap_utf8EncodeChar_iff {b : UInt8} (small : b.toNat < 128) {c : Char}
    (same : c.toNat = b.toNat) {cs : List Char} :
    b ∈ cs.flatMap String.utf8EncodeChar ↔ c ∈ cs := by
  simp only [List.mem_flatMap, mem_utf8EncodeChar_iff small, ← same, Char.toNat_inj, exists_eq_right]

theorem mem_octets_iff {b : UInt8} (small : b.toNat < 128) {c : Char} (same : c.toNat = b.toNat)
    {s : String} : b ∈ octets s ↔ c ∈ s.toList := by
  rw [octets_eq_flatMap, mem_flatMap_utf8EncodeChar_iff small same]

/-- The octets of a character are before those of a later one, whatever follows them. -/
theorem utf8EncodeChar_lt {c d : Char} (before : c < d) (rest rest' : List UInt8) :
    String.utf8EncodeChar c ++ rest < String.utf8EncodeChar d ++ rest' := by
  have codes : c.val.toNat < d.val.toNat := before
  have last : d.val.toNat < 0x110000 := by rcases d.valid with low | high <;> omega
  have octet (n m : Nat) : UInt8.ofNat n < UInt8.ofNat m ↔ n % 256 < m % 256 := by
    rw [UInt8.lt_iff_toNat_lt, UInt8.toNat_ofNat', UInt8.toNat_ofNat']
  have same (n m : Nat) : UInt8.ofNat n = UInt8.ofNat m ↔ n % 256 = m % 256 := by
    rw [← UInt8.toNat_inj, UInt8.toNat_ofNat', UInt8.toNat_ofNat']
  -- Six bits at a time, so that the digits of the two code points can be compared one by one.
  have two (n : Nat) : n / 4096 = n / 64 / 64 := by omega
  have three (n : Nat) : n / 262144 = n / 64 / 64 / 64 := by omega
  unfold String.utf8EncodeChar
  dsimp only
  repeat' split
  all_goals
    simp only [List.cons_append, List.nil_append, List.cons_lt_cons_iff, octet, same, two, three]
    omega

/-- Texts are in the order of their octets. -/
theorem octets_lt {s u : String} (before : s < u) : octets s < octets u := by
  rw [octets_eq_flatMap, octets_eq_flatMap]
  have chars : s.toList < u.toList := before
  generalize s.toList = cs at chars
  generalize u.toList = ds at chars
  induction chars with
  | @nil c ds =>
    obtain ⟨b, octets, first⟩ := List.exists_cons_of_ne_nil (String.utf8EncodeChar_ne_nil (c := c))
    rw [List.flatMap_nil, List.flatMap_cons, first, List.cons_append]
    exact List.nil_lt_cons _ _
  | @cons c cs ds _ ih =>
    rw [List.flatMap_cons, List.flatMap_cons]
    exact List.append_left_lt ih
  | @rel c cs d ds before =>
    rw [List.flatMap_cons, List.flatMap_cons]
    exact utf8EncodeChar_lt before _ _

end DataShelf.Text
