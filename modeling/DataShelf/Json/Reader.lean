import DataShelf.Json.Error

/-!
# Reading JSON text

A reader takes characters from the front of a text and answers a value and what is left. `value`
is structural in the number of nestings that are still allowed; its loops over elements and members
(`items`) run by a clock that is the text itself: each round takes a tick off the clock
and at least a character off the text.

The word "peeked" marks a fault whose place counts the next octet, which was looked at and not
taken.
-/

namespace DataShelf.Json
set_option autoImplicit false

/-- The outcome of reading: a value and the text behind it, or a fault. -/
abbrev Reading (α : Type) := Except Fault (α × List Char)

/-- The four characters that JSON allows between tokens. -/
def isSpace (c : Char) : Bool := c == ' ' || c == '\n' || c == '\t' || c == '\r'

/-- Drops the space in front of the next token. -/
def skipSpace (cs : List Char) : List Char := cs.dropWhile isSpace

/-- A fault behind some octets of what is left, which were looked at. -/
def stopBehind {α : Type} (ahead : Nat) (flaw : Flaw) (rest : List Char) : Except Fault α :=
  .error (.at (.flaw flaw) ⟨rest, ahead⟩)

/-- A fault in front of what is left. -/
def stopAt {α : Type} (flaw : Flaw) (rest : List Char) : Except Fault α := stopBehind 0 flaw rest

/-- A fault at the next octet. -/
def stopPeeked {α : Type} (flaw : Flaw) (rest : List Char) : Except Fault α :=
  stopBehind 1 flaw rest

/-- Locates a mismatch that is still loose. -/
def Fault.locate (place : List Char) : Fault → Fault
  | .at cause p => .at cause p
  | .loose m _ => .at (.mismatch m) ⟨place, 0⟩

/-! ### Words -/

/-- Reads the rest of `null`, `true` or `false`. -/
def word : List Char → List Char → Reading Unit
  | [], cs => .ok ((), cs)
  | _ :: _, [] => stopAt .endInValue []
  | w :: ws, c :: cs => if c == w then word ws cs else stopPeeked .wantsWord (c :: cs)

/-! ### Texts -/

/-- The number that four hexadecimal digits in front of a text write. -/
def fourHex (cs : List Char) : Reading Nat :=
  if octetCount (cs.take 4) < 4 then stopAt .endInString []
  else
    match cs with
    | a :: b :: c :: d :: rest =>
      match Text.hexValue? a, Text.hexValue? b, Text.hexValue? c, Text.hexValue? d with
      | some a, some b, some c, some d => .ok (((a * 16 + b) * 16 + c) * 16 + d, rest)
      | _, _, _, _ => stopBehind 4 .badEscape cs
    | _ => stopBehind 4 .badEscape cs

/-- The character that a one-letter escape stands for. -/
def simpleEscape? : Char → Option Char
  | '"' => some '"'
  | '\\' => some '\\'
  | '/' => some '/'
  | 'b' => some '\x08'
  | 'f' => some '\x0c'
  | 'n' => some '\n'
  | 'r' => some '\r'
  | 't' => some '\t'
  | _ => none

def isHighSurrogate (n : Nat) : Bool := 0xD800 ≤ n && n ≤ 0xDBFF

def isLowSurrogate (n : Nat) : Bool := 0xDC00 ≤ n && n ≤ 0xDFFF

/-- Takes one expected character of the second half of a surrogate pair. -/
def takeOfPair (expected : Char) : List Char → Reading Unit
  | [] => stopAt .endInString []
  | c :: cs => if c == expected then .ok ((), cs) else stopPeeked .cutEscape (c :: cs)

/-- The character of a `\u` escape, whose four digits come first; two escapes make one character
beyond the sixteen-bit ones. -/
def unicodeEscape (cs : List Char) : Except Fault (Char × List Char) := do
  let (first, rest) ← fourHex cs
  if isLowSurrogate first then stopAt .loneSurrogate rest
  else if isHighSurrogate first then
    let (_, rest) ← takeOfPair '\\' rest
    let (_, rest) ← takeOfPair 'u' rest
    let (second, rest) ← fourHex rest
    if isLowSurrogate second then
      .ok (Char.ofNat ((first - 0xD800) * 0x400 + (second - 0xDC00) + 0x10000), rest)
    else stopAt .loneSurrogate rest
  else .ok (Char.ofNat first, rest)

/-- The character of an escape, behind its backslash. -/
def escape : List Char → Reading Char
  | [] => stopAt .endInString []
  | c :: cs =>
    if c == 'u' then unicodeEscape cs
    else match simpleEscape? c with
      | some e => .ok (e, cs)
      | none => stopPeeked .badEscape (c :: cs)

/-- Reads a text to its closing quote, for as long as the clock ticks; the characters read so far
come in reverse. -/
def textTail : (clock : List Char) → List Char → List Char → Reading String
  | _ :: ticks, taken, c :: cs =>
    if c == '"' then .ok (String.ofList taken.reverse, cs)
    else if c == '\\' then
      match escape cs with
      | .ok (e, rest) => textTail ticks (e :: taken) rest
      | .error f => .error f
    else if c.toNat < 0x20 then stopPeeked .controlInString (c :: cs)
    else textTail ticks (c :: taken) cs
  | _, _, cs => stopAt .endInString cs

/-- Reads a text behind its opening quote. -/
def text (cs : List Char) : Reading String := textTail cs [] cs

/-! ### Numbers -/

def isDigit (c : Char) : Bool := '0' ≤ c && c ≤ '9'

def digitValue (c : Char) : Nat := c.toNat - '0'.toNat

def startsWithDigit : List Char → Bool
  | c :: _ => isDigit c
  | [] => false

def startsWithExponent : List Char → Bool
  | c :: _ => c == 'e' || c == 'E'
  | [] => false

/-- The digits in front of a text, added to a significand for as long as it stays below `limit`.
Answers the significand, how many digits it took in, and the text behind them, which begins with a
digit only if that digit had no room. -/
def takeDigits (limit : Nat) (significand taken : Nat) : List Char → Nat × Nat × List Char
  | [] => (significand, taken, [])
  | c :: cs =>
    if isDigit c && significand * 10 + digitValue c < limit then
      takeDigits limit (significand * 10 + digitValue c) (taken + 1) cs
    else (significand, taken, c :: cs)

/-- A natural power of ten as a double. -/
def powerOfTen (n : Nat) : Number.Double := Number.Double.ofNat (Nat.pow 10 n)

/-- Divides by ten as often as `n` says, in steps of at most 308 powers, each rounded. -/
def scaleDown (x : Number.Double) (n : Nat) : Number.Double :=
  if n ≤ 308 then x.div (powerOfTen n)
  else if x.isZero then x
  else scaleDown (x.div (powerOfTen 308)) (n - 308)
termination_by n

/-- The double for `significand · 10^exponent`: the significand is rounded first, then the product
or quotient with the power of ten. Nothing if it is too large. -/
def assemble? (negative : Bool) (significand : Nat) (exponent : Int) : Option Number.Double :=
  let x := Number.Double.ofNat significand
  let magnitude? : Option Number.Double :=
    if 0 ≤ exponent then
      if exponent ≤ 308 then
        let y := x.mul (powerOfTen exponent.toNat)
        if y.isInfinite then none else some y
      else if x.isZero then some x
      else none
    else some (scaleDown x (-exponent).toNat)
  magnitude?.map fun y => if negative then y.neg else y

/-- `assemble?` at a place of the text. -/
def finish (negative : Bool) (significand : Nat) (exponent : Int) (cs : List Char) : Reading Json :=
  match assemble? negative significand exponent with
  | some x => .ok (.float x, cs)
  | none => stopAt .numberTooLarge cs

/-- The significands that fit 64 bits. -/
def significandLimit : Nat := Nat.pow 2 64

/-- The exponents that are read digit by digit. -/
def exponentLimit : Nat := Nat.pow 2 31

/-- Reads an exponent behind its letter. -/
def exponentTail (negative : Bool) (significand : Nat) (shift : Int) (cs : List Char) :
    Reading Json :=
  let (below, cs) : Bool × List Char :=
    match cs with
    | '+' :: rest => (false, rest)
    | '-' :: rest => (true, rest)
    | _ => (false, cs)
  match cs with
  | [] => stopAt .endInValue []
  | c :: _ =>
    if !isDigit c then stopPeeked .badNumber cs
    else
      let (e, _, rest) := takeDigits exponentLimit 0 0 cs
      if startsWithDigit rest then
        -- Such an exponent leaves zero or leaves the doubles.
        if significand != 0 && !below then stopAt .numberTooLarge (rest.drop 1)
        else .ok (.float (.zero negative), rest.dropWhile isDigit)
      else finish negative significand (if below then shift - e else shift + e) rest

/-- Reads the exponent if there is one, and ends the number. -/
def exponentOrEnd (negative : Bool) (significand : Nat) (shift : Int) (cs : List Char) :
    Reading Json :=
  if startsWithExponent cs then exponentTail negative significand shift (cs.drop 1)
  else finish negative significand shift cs

/-- Reads a fraction behind its point. Digits that no longer fit the significand count for
nothing. -/
def fractionTail (negative : Bool) (significand : Nat) (shift : Int) (cs : List Char) :
    Reading Json :=
  let (s, taken, rest) := takeDigits significandLimit significand 0 cs
  if startsWithDigit rest then
    exponentOrEnd negative s (shift - taken) (rest.dropWhile isDigit)
  else if taken = 0 then
    stopPeeked (if rest.isEmpty then .endInValue else .badNumber) rest
  else exponentOrEnd negative s (shift - taken) rest

/-- The integer of a sign and a significand: minus zero and what has no place among the 64-bit
integers is a double. -/
def integerOf (negative : Bool) (significand : Nat) : Json :=
  if !negative then .integer significand
  else if significand = 0 || Nat.pow 2 63 < significand then
    .float (Number.Double.ofNat significand).neg
  else .integer (-significand)

/-- Reads a number behind its sign. -/
def number (negative : Bool) (cs : List Char) : Reading Json :=
  match cs with
  | [] => stopAt .endInValue []
  | c :: rest =>
    if !isDigit c then stopPeeked .badNumber cs
    else
      let (s, _, rest) := if c == '0' then (0, 1, rest) else takeDigits significandLimit 0 0 cs
      if c == '0' && startsWithDigit rest then stopPeeked .badNumber rest
      else if startsWithDigit rest then
        -- The integer has outgrown its 64 bits: what follows only counts as powers of ten.
        let more := rest.takeWhile isDigit
        match rest.dropWhile isDigit with
        | '.' :: rest => fractionTail negative s more.length rest
        | rest => exponentOrEnd negative s more.length rest
      else
        match rest with
        | '.' :: rest => fractionTail negative s 0 rest
        | _ =>
          if startsWithExponent rest then exponentTail negative s 0 (rest.drop 1)
          else .ok (integerOf negative s, rest)

/-! ### Lists and objects -/

/-- Goes to the next element of a list, or to its end: the text that begins with an element, or
nothing at the closing bracket, which is not taken. -/
def nextElement (first : Bool) (cs : List Char) : Reading Bool :=
  match skipSpace cs with
  | [] => stopPeeked .endInList []
  | ']' :: rest => .ok (false, ']' :: rest)
  | c :: rest =>
    if first then .ok (true, c :: rest)
    else if c == ',' then
      match skipSpace rest with
      | [] => stopPeeked .endInValue []
      | ']' :: rest => stopPeeked .trailingComma (']' :: rest)
      | rest => .ok (true, rest)
    else stopPeeked .wantsCommaOrBracket (c :: rest)

/-- Goes to the next key of an object, or to its end: the text that begins with the key's quote, or
nothing at the closing brace, which is not taken. -/
def nextKey (first : Bool) (cs : List Char) : Reading Bool :=
  match skipSpace cs with
  | [] => stopPeeked .endInObject []
  | '\x7d' :: rest => .ok (false, '\x7d' :: rest)
  | c :: rest =>
    if first then
      if c == '"' then .ok (true, c :: rest) else stopPeeked .keyNotString (c :: rest)
    else if c == ',' then
      match skipSpace rest with
      | [] => stopPeeked .endInValue []
      | '"' :: rest => .ok (true, '"' :: rest)
      | '\x7d' :: rest => stopPeeked .trailingComma ('\x7d' :: rest)
      | rest => stopPeeked .keyNotString rest
    else stopPeeked .wantsCommaOrBrace (c :: rest)

/-- Takes the colon behind a key. -/
def colon (cs : List Char) : Reading Unit :=
  match skipSpace cs with
  | [] => stopPeeked .endInObject []
  | ':' :: rest => .ok ((), rest)
  | rest => stopPeeked .wantsColon rest

/-- Takes a closing bracket. Answers how far it came also when there is none. -/
def closeList (cs : List Char) : Option Fault × List Char :=
  let peeked (flaw : Flaw) (rest : List Char) : Option Fault × List Char :=
    (some (.at (.flaw flaw) ⟨rest, 1⟩), rest)
  match skipSpace cs with
  | [] => peeked .endInList []
  | ']' :: rest => (none, rest)
  | ',' :: rest =>
    match skipSpace rest with
    | ']' :: rest => peeked .trailingComma (']' :: rest)
    | rest => peeked .trailingText rest
  | rest => peeked .trailingText rest

/-- Takes a closing brace. Answers how far it came also when there is none. -/
def closeObject (cs : List Char) : Option Fault × List Char :=
  let peeked (flaw : Flaw) (rest : List Char) : Option Fault × List Char :=
    (some (.at (.flaw flaw) ⟨rest, 1⟩), rest)
  match skipSpace cs with
  | [] => peeked .endInObject []
  | '\x7d' :: rest => (none, rest)
  | ',' :: rest => peeked .trailingComma (',' :: rest)
  | rest => peeked .trailingText rest

/-- Ends a container: takes its closing mark behind the content, and locates there what went wrong
with the content and had no place yet. -/
def closing {α : Type} (close : List Char → Option Fault × List Char) (content : Reading α) :
    Reading α :=
  match content with
  | .ok (a, rest) =>
    match close rest with
    | (none, rest) => .ok (a, rest)
    | (some fault, _) => .error fault
  | .error (.at cause place) => .error (.at cause place)
  | .error (.loose m rest) => .error (.at (.mismatch m) ⟨(close rest).2, 0⟩)

/-- The items of a container: `next` goes to the next item or to the closing mark, `one` reads an
item. -/
def items {α : Type} (next : Bool → List Char → Reading Bool) (one : List Char → Reading α) :
    (clock : List Char) → (first : Bool) → List Char → Except Fault (List α × List Char)
  | [], first, cs => (next first cs).bind fun r => .ok ([], r.2)
  | _ :: ticks, first, cs => do
    let (more, rest) ← next first cs
    if more then
      let (item, rest) ← one rest
      let (others, rest) ← items next one ticks false rest
      .ok (item :: others, rest)
    else .ok ([], rest)

/-- A member of an object: a key in quotes, a colon and a value that `one` reads. -/
def member {α : Type} (one : List Char → Reading α) (cs : List Char) :
    Except Fault ((String × α) × List Char) := do
  let (key, rest) ← text (cs.drop 1)
  let (_, rest) ← colon rest
  let (a, rest) ← one rest
  .ok ((key, a), rest)

/-- The elements of a list, each read by `one`, up to the closing bracket. -/
def elements {α : Type} (one : List Char → Reading α) (cs : List Char) : Reading (List α) :=
  items nextElement one cs true cs

/-- The members of an object, each value read by `one`, up to the closing brace. -/
def members {α : Type} (one : List Char → Reading α) (cs : List Char) :
    Reading (List (String × α)) :=
  items nextKey (member one) cs true cs

/-! ### Values -/

/-- Reads a value that is neither list nor object, from its first character on. -/
def scalar (cs : List Char) : Reading Json :=
  match cs with
  | [] => stopPeeked .endInValue []
  | c :: rest =>
    if c == 'n' then (word ['u', 'l', 'l'] rest).map fun r => (.null, r.2)
    else if c == 't' then (word ['r', 'u', 'e'] rest).map fun r => (.bool true, r.2)
    else if c == 'f' then (word ['a', 'l', 's', 'e'] rest).map fun r => (.bool false, r.2)
    else if c == '"' then (text rest).map fun r => (.string r.1, r.2)
    else if c == '-' then number true rest
    else if isDigit c then number false cs
    else stopPeeked .wantsValue cs

/-- How deep lists and objects may lie in each other. -/
def nestings : Nat := 127

/-- Reads a value; `depth` lists and objects may lie in each other. -/
def value : Nat → List Char → Reading Json
  | depth, cs =>
    match skipSpace cs with
    | '[' :: rest =>
      match depth with
      | 0 => stopPeeked .tooDeep ('[' :: rest)
      | d + 1 =>
        (closing closeList (elements (value d) rest)).map
          fun r => (.array r.1, r.2)
    | '\x7b' :: rest =>
      match depth with
      | 0 => stopPeeked .tooDeep ('\x7b' :: rest)
      | d + 1 =>
        (closing closeObject (members (value d) rest)).map
          fun r => (.object (objectOf r.1), r.2)
    | cs => scalar cs

/-- Reads a whole text with a reader: only space may follow. -/
def whole {α : Type} (reader : List Char → Reading α) (cs : List Char) : Except Fault α := do
  let (a, rest) ← reader cs
  match skipSpace rest with
  | [] => .ok a
  | rest => stopPeeked .trailingText rest

/-- The value that a text spells, or the fault in it. -/
def read (s : String) : Except Fault Json := whole (value nestings) s.toList

end DataShelf.Json
