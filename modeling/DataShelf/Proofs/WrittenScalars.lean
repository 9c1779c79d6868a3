import DataShelf.Proofs.ObjectKeys
import DataShelf.Json.Writer

/-!
# Texts and integers read back

What is written between quotes is read as the text that it was (`text_written`), whatever characters
are in it, and the numeral of an integer of 64 bits, with a sign or without, is read as that integer
(`scalar_numeral`).
-/

namespace DataShelf.Json
set_option autoImplicit false

/-! ### Characters -/

theorem isDigit_iff {c : Char} : isDigit c = true ↔ 48 ≤ c.toNat ∧ c.toNat ≤ 57 := by
  simp [isDigit, Char.le_def, UInt32.le_iff_toNat_le]

theorem hexValue?_hexDigit : ∀ n < 16, Text.hexValue? (Text.hexDigit n) = some n := by
  decide

theorem utf8Size_hexDigit : ∀ n < 16, (Text.hexDigit n).utf8Size = 1 := by
  decide

/-- The four digits of a number of sixteen bits are read as that number. -/
theorem fourHex_hexDigits {n : Nat} (small : n < 65536) (rest : List Char) :
    fourHex (Text.hexDigits 4 n ++ rest) = .ok (n, rest) := by
  have digits : Text.hexDigits 4 n = [Text.hexDigit (n / 16 / 16 / 16 % 16),
      Text.hexDigit (n / 16 / 16 % 16), Text.hexDigit (n / 16 % 16), Text.hexDigit (n % 16)] := rfl
  have below (m : Nat) : m % 16 < 16 := Nat.mod_lt m (by decide)
  have whole : ¬octetCount ((Text.hexDigits 4 n ++ rest).take 4) < 4 := by
    simp [digits, octetCount, utf8Size_hexDigit, below]
  have value : ((n / 16 / 16 / 16 % 16 * 16 + n / 16 / 16 % 16) * 16 + n / 16 % 16) * 16 + n % 16 =
      n := by
    omega
  unfold fourHex
  rw [if_neg whole, digits]
  simp only [List.cons_append, List.nil_append, hexValue?_hexDigit _ (below _), value]

/-! ### Texts -/

/-- The characters of an escape behind its backslash are read as the character that they stand
for. -/
theorem escape_control {c : Char} (control : c.toNat < 0x20) (rest : List Char) :
    escape ('u' :: (Text.hexDigits 4 c.toNat ++ rest)) = .ok (c, rest) := by
  have read := fourHex_hexDigits (n := c.toNat) (by omega) rest
  have low : isLowSurrogate c.toNat = false := by
    simp [isLowSurrogate]
    omega
  have high : isHighSurrogate c.toNat = false := by
    simp [isHighSurrogate]
    omega
  rw [escape, if_pos (beq_self_eq_true _), unicodeEscape, read]
  simp [bind, Except.bind, low, high, Char.ofNat_toNat]

/-- A character as it stands between quotes is taken as itself, in one tick of the clock. -/
theorem textTail_escapeChar (tick c : Char) (ticks taken cs : List Char) :
    textTail (tick :: ticks) taken (escapeChar c ++ cs) = textTail ticks (c :: taken) cs := by
  unfold escapeChar
  split
  · next quote =>
    obtain rfl := beq_iff_eq.1 quote
    simp [textTail, escape, simpleEscape?]
  split
  · next slash =>
    obtain rfl := beq_iff_eq.1 slash
    simp [textTail, escape, simpleEscape?]
  · next quote slash =>
    split
    · next control =>
      -- Five control characters have a letter, the others four digits.
      repeat' split
      all_goals first
        | next same =>
          obtain rfl := beq_iff_eq.1 same
          simp [textTail, escape, simpleEscape?]
        | simp [textTail, escape_control control]
    · next plain =>
      simp [textTail, quote, slash, plain]

/-- Escaped characters are read as the characters, up to the quote. -/
theorem textTail_escaped (chars : List Char) (clock taken rest : List Char)
    (time : chars.length < clock.length) :
    textTail clock taken (chars.flatMap escapeChar ++ '"' :: rest) =
      .ok (String.ofList (taken.reverse ++ chars), rest) := by
  induction chars generalizing clock taken with
  | nil =>
    cases clock with
    | nil => simp at time
    | cons tick ticks => simp [textTail]
  | cons c chars ih =>
    cases clock with
    | nil => simp at time
    | cons tick ticks =>
      have time' : chars.length < ticks.length := by
        simpa using time
      rw [List.flatMap_cons, List.append_assoc, textTail_escapeChar, ih ticks (c :: taken) time']
      simp

/-- Escaping makes no text shorter. -/
theorem length_flatMap_escapeChar (chars : List Char) :
    chars.length ≤ (chars.flatMap escapeChar).length := by
  have filled (c : Char) : 1 ≤ (escapeChar c).length := by
    unfold escapeChar
    repeat' split
    all_goals simp
  induction chars with
  | nil => exact Nat.le_refl 0
  | cons c chars ih =>
    have := filled c
    rw [List.flatMap_cons, List.length_append, List.length_cons]
    omega

/-- A text in quotes is read as the text. -/
theorem text_written (s : String) (rest : List Char) :
    text (s.toList.flatMap escapeChar ++ '"' :: rest) = .ok (s, rest) := by
  have time : s.toList.length < (s.toList.flatMap escapeChar ++ '"' :: rest).length := by
    have := length_flatMap_escapeChar s.toList
    rw [List.length_append, List.length_cons]
    omega
  rw [text, textTail_escaped _ _ _ _ time]
  simp

/-- The characters that are not control characters below the space. -/
def Printable (cs : List Char) : Prop := ∀ c ∈ cs, 0x20 ≤ c.toNat

instance (cs : List Char) : Decidable (Printable cs) :=
  List.decidableBAll (fun c : Char => 0x20 ≤ c.toNat) cs

/-- Texts that can be printed can be printed one behind the other. -/
theorem Printable.append {cs cs' : List Char} (h : Printable cs) (h' : Printable cs') :
    Printable (cs ++ cs') := by
  intro c member
  exact (List.mem_append.1 member).elim (h c) (h' c)

theorem Printable.cons {c : Char} {cs : List Char} (here : 0x20 ≤ c.toNat) (h : Printable cs) :
    Printable (c :: cs) := by
  intro c' member
  rcases List.mem_cons.1 member with rfl | later
  · exact here
  · exact h c' later

theorem printable_hexDigits (width n : Nat) : Printable (Text.hexDigits width n) := by
  have digit : ∀ n < 16, 0x20 ≤ (Text.hexDigit n).toNat := by decide
  induction width generalizing n with
  | zero => exact nofun
  | succ width ih =>
    refine (ih (n / 16)).append (.cons (digit _ (Nat.mod_lt n (by decide))) nofun)

/-- An escaped character can be printed. -/
theorem printable_escapeChar (c : Char) : Printable (escapeChar c) := by
  unfold escapeChar
  split
  · decide
  split
  · decide
  split
  · repeat' split
    all_goals first
      | decide
      | exact .cons (by decide) (.cons (by decide) (printable_hexDigits 4 _))
  · next plain => exact .cons (Nat.le_of_not_lt plain) nofun

/-- No control character is in a text as it is written, whatever is in the text. -/
theorem printable_writeText (s : String) : Printable (writeText s) := by
  have inside : Printable (s.toList.flatMap escapeChar) := by
    intro c member
    obtain ⟨c', -, here⟩ := List.mem_flatMap.1 member
    exact printable_escapeChar c' c here
  exact .cons (by decide) (inside.append (.cons (by decide) nofun))

/-! ### Numerals -/

/-- A text that goes on with what may stand behind a value: nothing, a comma, a closing mark or the
end of a line. -/
def Stops (rest : List Char) : Prop := ∀ c ∈ rest.head?, c = ',' ∨ c = ']' ∨ c = '\x7d' ∨ c = '\n'

/-- What stops a value begins with no digit. -/
theorem Stops.startsWithDigit {rest : List Char} (stops : Stops rest) :
    startsWithDigit rest = false := by
  cases rest with
  | nil => rfl
  | cons c rest => rcases stops c rfl with rfl | rfl | rfl | rfl <;> rfl

/-- What stops a value begins with no exponent. -/
theorem Stops.startsWithExponent {rest : List Char} (stops : Stops rest) :
    startsWithExponent rest = false := by
  cases rest with
  | nil => rfl
  | cons c rest => rcases stops c rfl with rfl | rfl | rfl | rfl <;> rfl

theorem Stops.ne_point {rest : List Char} (stops : Stops rest) (behind : List Char) :
    rest ≠ '.' :: behind := by
  rintro rfl
  rcases stops '.' rfl with h | h | h | h <;> exact absurd h (by decide)

/-- Digits behind a number make it no smaller. -/
theorem le_ofDigitChars (digits : List Char) (n : Nat) : n ≤ Nat.ofDigitChars 10 digits n := by
  induction digits generalizing n with
  | nil => exact Nat.le_refl n
  | cons c digits ih =>
    rw [Nat.ofDigitChars_cons]
    have := ih (10 * n + (c.toNat - '0'.toNat))
    omega

/-- Digits are taken one and all if their number has room, and nothing behind them. -/
theorem takeDigits_append {limit : Nat} {digits rest : List Char} (n taken : Nat)
    (all : ∀ c ∈ digits, isDigit c = true) (small : Nat.ofDigitChars 10 digits n < limit)
    (ends : startsWithDigit rest = false) :
    takeDigits limit n taken (digits ++ rest) =
      (Nat.ofDigitChars 10 digits n, taken + digits.length, rest) := by
  induction digits generalizing n taken with
  | nil =>
    cases rest with
    | nil => rfl
    | cons c rest =>
      have other : isDigit c = false := ends
      simp [takeDigits, other, Nat.ofDigitChars]
  | cons c digits ih =>
    obtain ⟨here, later⟩ := List.forall_mem_cons.1 all
    have next : Nat.ofDigitChars 10 (c :: digits) n =
        Nat.ofDigitChars 10 digits (n * 10 + digitValue c) := by
      rw [Nat.ofDigitChars_cons, digitValue, Nat.mul_comm]
    rw [next] at small ⊢
    have room : n * 10 + digitValue c < limit :=
      Nat.lt_of_le_of_lt (le_ofDigitChars digits _) small
    rw [List.cons_append, takeDigits, if_pos (by simp [here, room]), ih _ _ later small,
      List.length_cons, Nat.add_right_comm, Nat.add_assoc]

theorem isDigit_of_mem_toDigits {n : Nat} {c : Char} (member : c ∈ Nat.toDigits 10 n) :
    isDigit c = true :=
  Nat.isDigit_of_mem_toDigits (by decide) (by decide) member

/-- No numeral but that of zero begins with a zero. -/
theorem head_toDigits {n : Nat} (positive : 0 < n) :
    ∃ c digits, Nat.toDigits 10 n = c :: digits ∧ c ≠ '0' := by
  induction n using Nat.strongRecOn with
  | ind n ih =>
    rw [Nat.toDigits_eq_if (by decide)]
    split
    · next small =>
      have digit : ∀ n < 10, 0 < n → n.digitChar ≠ '0' := by decide
      exact ⟨_, [], rfl, digit n small positive⟩
    · next large =>
      obtain ⟨c, digits, front, other⟩ := ih (n / 10) (by omega) (by omega)
      exact ⟨c, digits ++ [(n % 10).digitChar], by rw [front, List.cons_append], other⟩

/-- Where no fraction and no exponent follow its digits, a number is an integer. -/
theorem number_cons {c : Char} {digits rest : List Char} {n : Nat} (negative : Bool) (taken : Nat)
    (digit : isDigit c = true) (stops : Stops rest)
    (read : (if c == '0' then (0, 1, digits) else takeDigits significandLimit 0 0 (c :: digits)) =
      (n, taken, rest)) :
    number negative (c :: digits) = .ok (integerOf negative n, rest) := by
  have ends := stops.startsWithDigit
  have flat := stops.startsWithExponent
  unfold number
  dsimp only
  rw [digit, Bool.not_true, if_neg (by decide), read]
  dsimp only
  rw [ends, Bool.and_false, if_neg (by decide), if_neg (by decide)]
  split
  · next behind => exact absurd rfl (stops.ne_point behind)
  · rw [flat, if_neg (by decide)]

/-- The digits of a natural number of 64 bits are read as that number. -/
theorem number_toDigits {n : Nat} (small : n < significandLimit) (negative : Bool)
    {rest : List Char} (stops : Stops rest) :
    number negative (Nat.toDigits 10 n ++ rest) = .ok (integerOf negative n, rest) := by
  rcases Nat.eq_zero_or_pos n with rfl | positive
  · have zero : Nat.toDigits 10 0 = ['0'] := rfl
    rw [zero]
    exact number_cons negative 1 rfl stops rfl
  · obtain ⟨c, digits, front, other⟩ := head_toDigits positive
    have all : ∀ c ∈ Nat.toDigits 10 n, isDigit c = true := fun c => isDigit_of_mem_toDigits
    have value : Nat.ofDigitChars 10 (Nat.toDigits 10 n) 0 = n :=
      Nat.ofDigitChars_toDigits (by decide) (by decide)
    have taken := takeDigits_append 0 0 all (value.symm ▸ small) stops.startsWithDigit
    rw [value, front] at taken
    rw [front] at all ⊢
    refine number_cons negative (0 + (c :: digits).length) (all c List.mem_cons_self) stops ?_
    rw [if_neg (by simpa using other)]
    exact taken

theorem ne_of_isDigit {c c' : Char} (digit : isDigit c = true) (digitless : isDigit c' = false) :
    c ≠ c' := by
  rintro rfl
  simp [digitless] at digit

/-- A value that begins with a digit is a number. -/
theorem scalar_of_isDigit {c : Char} (digit : isDigit c = true) (rest : List Char) :
    scalar (c :: rest) = number false (c :: rest) := by
  have other (c' : Char) (none : isDigit c' = false) : (c == c') = false :=
    beq_eq_false_iff_ne.2 (ne_of_isDigit digit none)
  unfold scalar
  simp [other 'n' rfl, other 't' rfl, other 'f' rfl, other '"' rfl, other '-' rfl, digit]

theorem toList_toString_natCast (n : Nat) : (toString (n : Int)).toList = Nat.toDigits 10 n :=
  String.toList_ofList

/-- A number below zero is written with a sign and its digits. -/
theorem toList_toString_negSucc (n : Nat) :
    (toString (Int.negSucc n)).toList = '-' :: Nat.toDigits 10 (n + 1) := by
  show ("-" ++ (n + 1).repr).toList = _
  simp [Nat.repr_eq_ofList_toDigits]

/-- A numeral begins with a sign or a digit. -/
theorem begins_numeral (n : Int) :
    ∃ c rest, (toString n).toList = c :: rest ∧ (c = '-' ∨ isDigit c = true) := by
  cases n with
  | ofNat n =>
    obtain ⟨c, rest, digits⟩ := List.exists_cons_of_ne_nil (Nat.toDigits_ne_nil (n := n) (b := 10))
    refine ⟨c, rest, (toList_toString_natCast n).trans digits, .inr ?_⟩
    exact isDigit_of_mem_toDigits (digits ▸ List.mem_cons_self)
  | negSucc n => exact ⟨'-', _, toList_toString_negSucc n, .inl rfl⟩

/-- A numeral can be printed. -/
theorem printable_numeral (n : Int) : Printable (toString n).toList := by
  have digits (n : Nat) : Printable (Nat.toDigits 10 n) := by
    intro c member
    have := isDigit_iff.1 (isDigit_of_mem_toDigits member)
    omega
  cases n with
  | ofNat n => exact toList_toString_natCast n ▸ digits n
  | negSucc n => exact toList_toString_negSucc n ▸ .cons (by decide) (digits (n + 1))

/-- The numeral of an integer is read as the integer. -/
theorem scalar_numeral {n : Int} (fits : Fits n) {rest : List Char} (stops : Stops rest) :
    scalar ((toString n).toList ++ rest) = .ok (.integer n, rest) := by
  obtain ⟨least, greatest⟩ := fits_iff.1 fits
  have limit : significandLimit = 2 ^ 64 := rfl
  cases n with
  | ofNat n =>
    have small : n < significandLimit := by
      rw [Int.ofNat_eq_natCast] at greatest
      omega
    have read := number_toDigits small false stops
    obtain ⟨c, digits, text⟩ := List.exists_cons_of_ne_nil (Nat.toDigits_ne_nil (n := n) (b := 10))
    have digit : isDigit c = true := isDigit_of_mem_toDigits (text ▸ List.mem_cons_self)
    rw [text] at read
    rw [Int.ofNat_eq_natCast, toList_toString_natCast, text]
    exact (scalar_of_isDigit digit _).trans read
  | negSucc n =>
    have small : n + 1 < significandLimit := by
      omega
    have room : ¬Nat.pow 2 63 < n + 1 := by
      show ¬2 ^ 63 < n + 1
      omega
    have value : integerOf true (n + 1) = .integer (Int.negSucc n) := by
      simp [integerOf, room, Int.negSucc_eq]
    have read := number_toDigits small true stops
    rw [value] at read
    rw [toList_toString_negSucc]
    exact read

end DataShelf.Json
