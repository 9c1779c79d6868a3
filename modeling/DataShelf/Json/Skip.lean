import DataShelf.Json.Reader

/-!
# Skipping values of no interest

A value under a key that nobody asked for is passed over. Its lists and objects may lie in each
other to any depth, its numbers may be of any size and its escaped surrogates need no partner; only
the grammar counts.
-/

namespace DataShelf.Json
set_option autoImplicit false

/-- Passes an escape, behind its backslash. -/
def skipEscape : List Char → Reading Unit
  | [] => stopAt .endInString []
  | c :: cs =>
    if c == 'u' then (fourHex cs).map fun r => ((), r.2)
    else if (simpleEscape? c).isSome then .ok ((), cs)
    else stopPeeked .badEscape (c :: cs)

/-- Passes a text to its closing quote, for as long as the clock ticks. -/
def skipTextTail : (clock : List Char) → List Char → Reading Unit
  | _ :: ticks, c :: cs =>
    if c == '"' then .ok ((), cs)
    else if c == '\\' then
      match skipEscape cs with
      | .ok (_, rest) => skipTextTail ticks rest
      | .error f => .error f
    else if c.toNat < 0x20 then stopAt .controlInString (c :: cs)
    else skipTextTail ticks cs
  | _, cs => stopAt .endInString cs

/-- Passes a text behind its opening quote. -/
def skipText (cs : List Char) : Reading Unit := skipTextTail cs cs

/-- Passes an exponent behind its letter. -/
def skipExponent (cs : List Char) : Reading Unit :=
  let rest := match cs with
    | '+' :: rest => rest
    | '-' :: rest => rest
    | _ => cs
  if startsWithDigit rest then .ok ((), rest.dropWhile isDigit) else stopPeeked .badNumber rest

/-- Passes a fraction behind its point, and the exponent if there is one. -/
def skipFraction (cs : List Char) : Reading Unit :=
  let rest := cs.dropWhile isDigit
  if !startsWithDigit cs then stopPeeked .badNumber rest
  else if startsWithExponent rest then skipExponent (rest.drop 1)
  else .ok ((), rest)

/-- Passes a number behind its sign. -/
def skipNumber (cs : List Char) : Reading Unit :=
  if !startsWithDigit cs then stopPeeked .badNumber cs
  else
    let zero := cs.head? == some '0'
    let rest := if zero then cs.drop 1 else cs.dropWhile isDigit
    if zero && startsWithDigit rest then stopPeeked .badNumber rest
    else
      match rest with
      | '.' :: rest => skipFraction rest
      | _ => if startsWithExponent rest then skipExponent (rest.drop 1) else .ok ((), rest)

/-- Passes a value that is neither list nor object, from its first character on. -/
def skipScalar (cs : List Char) : Reading Unit :=
  match cs with
  | [] => stopPeeked .endInValue []
  | c :: rest =>
    if c == 'n' then word ['u', 'l', 'l'] rest
    else if c == 't' then word ['r', 'u', 'e'] rest
    else if c == 'f' then word ['a', 'l', 's', 'e'] rest
    else if c == '"' then skipText rest
    else if c == '-' then skipNumber rest
    else if isDigit c then skipNumber cs
    else stopPeeked .wantsValue cs

/-- Goes to the next element or to the end of a list. Whether an element follows a comma is left to
its reader. -/
def skipToElement (first : Bool) (cs : List Char) : Reading Bool :=
  match skipSpace cs with
  | [] => stopPeeked .endInList []
  | c :: rest =>
    if c == ']' then .ok (false, c :: rest)
    else if first then .ok (true, c :: rest)
    else if c == ',' then .ok (true, rest)
    else stopPeeked .wantsCommaOrBracket (c :: rest)

/-- Goes to the next key or to the end of an object. -/
def skipToKey (first : Bool) (cs : List Char) : Reading Bool :=
  let key (cs : List Char) : Reading Bool :=
    match skipSpace cs with
    | [] => stopPeeked .endInObject []
    | c :: rest => if c == '"' then .ok (true, c :: rest) else stopPeeked .keyNotString (c :: rest)
  match skipSpace cs with
  | [] => stopPeeked .endInObject []
  | c :: rest =>
    if c == '\x7d' then .ok (false, c :: rest)
    else if first then key (c :: rest)
    else if c == ',' then key rest
    else stopPeeked .wantsCommaOrBrace (c :: rest)

/-- Passes a member of an object. -/
def skipMember (one : List Char → Reading Unit) (cs : List Char) :
    Except Fault (Unit × List Char) := do
  let (_, rest) ← skipText (cs.drop 1)
  let (_, rest) ← colon rest
  one rest

/-- Passes a value. Each nesting takes a tick off the clock and a character off the text. -/
def skipValue : (clock : List Char) → List Char → Reading Unit
  | clock, cs =>
    match skipSpace cs with
    | '[' :: rest =>
      match clock with
      | [] => stopPeeked .endInValue rest
      | _ :: ticks => (items skipToElement (skipValue ticks) rest true rest).map
          fun r => ((), r.2.drop 1)
    | '\x7b' :: rest =>
      match clock with
      | [] => stopPeeked .endInValue rest
      | _ :: ticks => (items skipToKey (skipMember (skipValue ticks)) rest true rest).map
          fun r => ((), r.2.drop 1)
    | cs => skipScalar cs

/-- Passes a value of any depth. -/
def skip (cs : List Char) : Reading Unit := skipValue cs cs

end DataShelf.Json
