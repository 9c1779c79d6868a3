import DataShelf.Text.Columns
import DataShelf.Text.Emoji

/-!
# How a text leads

The columns of a character may depend on the text behind it: letters join into ligatures, and emoji
into sequences of which only one character counts. A `Lead` is what of a text a character in front
of it can see; `Lead.join?` is what the two of them make.
-/

namespace DataShelf.Text
set_option autoImplicit false

/-- The start of a text, as far as the columns of a character in front of it depend on it. A letter
is joined if a joiner stands in front of it. -/
inductive Lead
  | plain
  | lineFeed
  /-- An alef of the Arabic script. -/
  | alef
  /-- The lamed of the Hebrew script. -/
  | lamed (joined : Bool)
  /-- The ya of the Buginese script. -/
  | ya (joined : Bool)
  /-- A joined ya behind the vowel sign i. -/
  | vowelYa
  /-- A consonant of the Tifinagh script. -/
  | tifinagh (joined : Bool)
  /-- The consonant joiner of the Tifinagh script in front of a consonant. -/
  | tifinaghJoiner
  /-- A tone letter of the Lisu script that ends a pair. -/
  | toneLetter
  /-- The i of the Old Turkic script. -/
  | orkhonI (joined : Bool)
  /-- A Khmer letter that can be written below another. -/
  | khmerLetter
  /-- The vowel sign e of the Kirat Rai script. -/
  | vowelE
  /-- The vowel sign ai of the Kirat Rai script. -/
  | vowelAi
  /-- A half of a flag, with several of them behind one another or not. -/
  | flagHalf (several : Bool)
  | skinTone
  | emoji
  /-- An emoji behind a joiner. -/
  | joinedEmoji
  /-- The frame of a keycap in front of a joined emoji. -/
  | joinedKeycap
  /-- A single half of a flag in front of a joined emoji. -/
  | joinedFlagHalf
  /-- Several halves of flags in front of a joined emoji. -/
  | joinedFlags (odd : Bool)
  /-- Tags of a flag in front of a joined emoji, with a number of letters. -/
  | tagLetters (count : Nat)
  /-- Tags of a flag in front of a joined emoji that start with a number of digits. -/
  | tagDigits (count : Nat)
  deriving DecidableEq, Repr

/-- Whether an Arabic letter is a lam, in one of its shapes. -/
def isLam (c : Char) : Bool :=
  inRanges #[(0x644, 0x644), (0x6B5, 0x6B8), (0x76A, 0x76A), (0x8A6, 0x8A6), (0x8C7, 0x8C7)]
    c.toNat

/-- Whether an Arabic letter is an alef, in one of its shapes. -/
def isAlef (c : Char) : Bool :=
  inRanges #[(0x622, 0x623), (0x625, 0x625), (0x627, 0x627), (0x671, 0x673), (0x675, 0x675),
    (0x773, 0x774), (0x870, 0x882)] c.toNat

def isTifinagh (c : Char) : Bool := isBetween 0x2D31 0x2D65 c || c == '\u2D6F'

/-- Whether a Khmer letter can be written below another. -/
def isKhmerLetter (c : Char) : Bool :=
  inRanges #[(0x1780, 0x1782), (0x1784, 0x1787), (0x1789, 0x178C), (0x178E, 0x1793),
    (0x1795, 0x1798), (0x179B, 0x179D), (0x17A0, 0x17A0), (0x17A2, 0x17A2), (0x17A7, 0x17A7),
    (0x17AB, 0x17AC), (0x17AF, 0x17AF)] c.toNat

/-- Whether a character between two letters does not keep them from joining. -/
def isLetterGlue (c : Char) : Bool :=
  inRanges #[(0x34F, 0x34F), (0x17B4, 0x17B5), (0x180B, 0x180D), (0x180F, 0x180F),
    (0x200D, 0x200D), (0xFE00, 0xFE0F), (0xE0100, 0xE01EF)] c.toNat

namespace Lead

/-- How a text leads that starts with a character which joins nothing behind it. -/
def ofChar (c : Char) : Lead :=
  if isFlagHalf c then .flagHalf false
  else if isSkinTone c then .skinTone
  else if isEmoji c then .emoji
  else if isAlef c then .alef
  else if isTifinagh c then .tifinagh false
  else if isKhmerLetter c then .khmerLetter
  else match c.toNat with
    | 0x5DC => .lamed false
    | 0x1A10 => .ya false
    | 0xA4FC => .toneLetter
    | 0xA4FD => .toneLetter
    | 0x10C03 => .orkhonI false
    | 0x16D67 => .vowelE
    | 0x16D68 => .vowelAi
    | _ => .plain

/-- Whether a text leads with a letter that joins others also across `isLetterGlue`. -/
def isLetter : Lead → Bool
  | .lamed _ | .ya _ | .vowelYa | .tifinagh _ | .tifinaghJoiner | .toneLetter | .orkhonI _
  | .khmerLetter => true
  | _ => false

/-- A letter with glue in front of it. -/
def glue (c : Char) (l : Lead) : Lead :=
  if c == '\u200D' then
    match l with
    | .lamed _ => .lamed true
    | .ya _ => .ya true
    | .tifinagh _ => .tifinagh true
    | .orkhonI _ => .orkhonI true
    | l => l
  else l

/-- Whether a text leads with a joiner and an emoji, with the frame of a keycap or without. -/
def awaitsEmoji : Lead → Bool
  | .joinedEmoji | .joinedKeycap => true
  | _ => false

/-- What an emoji behind a joiner makes with a character. -/
def joinEmoji? (c : Char) : Option (Int × Lead) :=
  if c == '\u20E3' then some (0, .joinedKeycap)
  else if isFlagHalf c then some (1, .joinedFlagHalf)
  else if isSkinTone c then some (0, .skinTone)
  else if c.toNat == 0xE007F then some (0, .tagLetters 0)
  else if isEmoji c then some (0, .emoji)
  else none

/-- What the tags of a flag make with a character: at most six letters, behind at most four of them
up to three digits, and the flag itself in front of three letters or digits at least. -/
def joinTag? (l : Lead) (c : Char) : Option (Int × Lead) :=
  match l with
  | .tagLetters n =>
    if isTagLetter c && n < 6 then some (0, .tagLetters (n + 1))
    else if isTagDigit c && n < 5 then some (0, .tagDigits 1)
    else if c.toNat == 0x1F3F4 && 3 ≤ n then some (0, .emoji)
    else none
  | .tagDigits n =>
    if isTagDigit c && n < 3 then some (0, .tagDigits (n + 1))
    else if c.toNat == 0x1F3F4 && n == 3 then some (0, .emoji)
    else none
  | _ => none

/-- The columns that a character adds in front of a text that it joins, and how the two of them
lead. -/
def join? (l : Lead) (c : Char) : Option (Int × Lead) :=
  let n := c.toNat
  match l with
  | .alef =>
    if isLam c then some (0, .plain) else if isMark c then some (0, .alef) else none
  | .lamed true => if n == 0x5D0 then some (0, .plain) else none
  | .ya true => if n == 0x1A17 then some (0, .vowelYa) else none
  | .vowelYa => if n == 0x1A15 then some (0, .plain) else none
  | .tifinagh joined =>
    if n == 0x2D7F then some (1, .tifinaghJoiner)
    else if joined && isTifinagh c then some (0, .plain)
    else none
  | .tifinaghJoiner => if isTifinagh c then some (-1, .plain) else none
  | .toneLetter => if isBetween 0xA4F8 0xA4FB c then some (0, .plain) else none
  | .orkhonI true => if n == 0x10C32 then some (0, .plain) else none
  | .khmerLetter => if n == 0x17D2 then some (-1, .plain) else none
  | .vowelE =>
    if n == 0x16D63 || n == 0x16D69 then some (0, .plain)
    else if n == 0x16D67 then some (0, .vowelAi)
    else if n == 0x16D68 then some (1, .vowelE)
    else none
  | .vowelAi => if n == 0x16D63 then some (0, .plain) else none
  | .skinTone =>
    if isModifierBase c then some (0, .emoji)
    else if c == '\u200D' then some (0, .joinedEmoji)
    else none
  | .flagHalf several =>
    if isFlagHalf c then some (1, .flagHalf true)
    else if several && c == '\u200D' then some (0, .joinedEmoji)
    else none
  | .emoji => if c == '\u200D' then some (0, .joinedEmoji) else none
  | .joinedEmoji => joinEmoji? c
  | .joinedFlagHalf => if isFlagHalf c then some (-1, .joinedFlags false) else none
  | .joinedFlags odd =>
    if isFlagHalf c then some (if odd then (-1, .joinedFlags false) else (3, .joinedFlags true))
    else if c == '\u200D' then some (0, .joinedEmoji)
    else none
  | l => joinTag? l c

end Lead
end DataShelf.Text
