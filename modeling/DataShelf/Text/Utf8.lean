/-!
# Octets and text

File names and request bytes arrive as octets. `ofOctets?` reads them strictly, `lossy` puts the
replacement character where no character can be read. The two agree on the octets of a text:
`ofOctets?_octets`, `display_octets`.
-/

namespace DataShelf.Text
set_option autoImplicit false

/-- The UTF-8 octets of a text. -/
def octets (s : String) : List UInt8 := s.toUTF8.data.toList

/-- The text that the octets spell, if they are well-formed UTF-8. -/
def ofOctets? (bytes : List UInt8) : Option String := String.fromUTF8? ⟨bytes.toArray⟩

theorem ofOctets?_octets (s : String) : ofOctets? (octets s) = some s := by
  have h : s.toByteArray.IsValidUTF8 := s.isValidUTF8
  simp only [ofOctets?, octets, String.toUTF8_eq_toByteArray, Array.toArray_toList]
  exact dif_pos h

/-- The octets of a well-formed sequence are the octets of the text read from it. -/
theorem octets_of_ofOctets? {bytes : List UInt8} {s : String} (h : ofOctets? bytes = some s) :
    octets s = bytes := by
  unfold ofOctets? String.fromUTF8? at h
  split at h
  · cases h
    simp [octets, String.fromUTF8]
  · cases h

/-- A continuation octet carries six bits. -/
def isContinuation (b : UInt8) : Bool := 0x80 ≤ b && b ≤ 0xBF

/-- The second octets that a leading octet of three or four admits: shorter encodings, surrogates
and code points past the last one are left out here. -/
def admitsSecond (lead second : UInt8) : Bool :=
  if lead == 0xE0 then 0xA0 ≤ second && second ≤ 0xBF
  else if lead == 0xED then 0x80 ≤ second && second ≤ 0x9F
  else if lead == 0xF0 then 0x90 ≤ second && second ≤ 0xBF
  else if lead == 0xF4 then 0x80 ≤ second && second ≤ 0x8F
  else isContinuation second

/-- The low bits of an octet. -/
private def bits (b : UInt8) (modulus : Nat) : Nat := b.toNat % modulus

/-- The replacement character. -/
def replacement : Char := '\uFFFD'

/-- Reads one character after its leading octet, or the longest part of one that could not be
completed. Answers the character and how many further octets it took. -/
def nextChar (lead : UInt8) (rest : List UInt8) : Char × Nat :=
  if lead < 0x80 then (Char.ofNat lead.toNat, 0)
  else if 0xC2 ≤ lead && lead ≤ 0xDF then
    match rest with
    | b :: _ => if isContinuation b then (Char.ofNat (bits lead 32 * 64 + bits b 64), 1)
                else (replacement, 0)
    | [] => (replacement, 0)
  else if 0xE0 ≤ lead && lead ≤ 0xEF then
    match rest with
    | b :: more =>
      if admitsSecond lead b then
        match more with
        | c :: _ =>
          if isContinuation c then
            (Char.ofNat ((bits lead 16 * 64 + bits b 64) * 64 + bits c 64), 2)
          else (replacement, 1)
        | [] => (replacement, 1)
      else (replacement, 0)
    | [] => (replacement, 0)
  else if 0xF0 ≤ lead && lead ≤ 0xF4 then
    match rest with
    | b :: more =>
      if admitsSecond lead b then
        match more with
        | c :: more' =>
          if isContinuation c then
            match more' with
            | d :: _ =>
              if isContinuation d then
                (Char.ofNat (((bits lead 8 * 64 + bits b 64) * 64 + bits c 64) * 64 + bits d 64), 3)
              else (replacement, 2)
            | [] => (replacement, 2)
          else (replacement, 1)
        | [] => (replacement, 1)
      else (replacement, 0)
    | [] => (replacement, 0)
  else (replacement, 0)

/-- Reads octets as characters; each longest sequence that begins a character and does not
complete it becomes one replacement character. -/
def lossy : List UInt8 → List Char
  | [] => []
  | lead :: rest =>
    let step := nextChar lead rest
    step.1 :: lossy (rest.drop step.2)
termination_by bytes => bytes.length
decreasing_by simp only [List.length_drop, List.length_cons]; omega

/-- The text shown for octets: the text itself if they are well-formed, the lossy reading else. -/
def display (bytes : List UInt8) : String :=
  match ofOctets? bytes with
  | some s => s
  | none => String.ofList (lossy bytes)

@[simp] theorem display_octets (s : String) : display (octets s) = s := by
  simp [display, ofOctets?_octets]

end DataShelf.Text
