import DataShelf.Json.Basic
import DataShelf.Text.Quoted

/-!
# Why JSON text or a JSON value is refused

A `Flaw` is a fault of the text. A `Mismatch` is a value that does not have the shape asked for.
While text is read, either stops the reading at a `Place`; a mismatch that no enclosing array or
object has located yet is `loose`.
-/

namespace DataShelf.Json
set_option autoImplicit false

/-- What makes a text no JSON text. -/
inductive Flaw where
  | endInList
  | endInObject
  | endInString
  | endInValue
  | wantsColon
  | wantsCommaOrBracket
  | wantsCommaOrBrace
  | wantsWord
  | wantsValue
  | badEscape
  | badNumber
  | numberTooLarge
  | controlInString
  | keyNotString
  | loneSurrogate
  | cutEscape
  | trailingComma
  | trailingText
  | tooDeep
  deriving DecidableEq, Repr

/-- The words for a flaw. -/
def Flaw.message : Flaw → String
  | .endInList => "EOF while parsing a list"
  | .endInObject => "EOF while parsing an object"
  | .endInString => "EOF while parsing a string"
  | .endInValue => "EOF while parsing a value"
  | .wantsColon => "expected `:`"
  | .wantsCommaOrBracket => "expected `,` or `]`"
  | .wantsCommaOrBrace => "expected `,` or `\x7d`"
  | .wantsWord => "expected ident"
  | .wantsValue => "expected value"
  | .badEscape => "invalid escape"
  | .badNumber => "invalid number"
  | .numberTooLarge => "number out of range"
  | .controlInString => "control character (\\u0000-\\u001F) found while parsing a string"
  | .keyNotString => "key must be a string"
  | .loneSurrogate => "lone leading surrogate in hex escape"
  | .cutEscape => "unexpected end of hex escape"
  | .trailingComma => "trailing comma"
  | .trailingText => "trailing characters"
  | .tooDeep => "recursion limit exceeded"

/-- A value as messages describe it: scalars by value, containers by kind. -/
def describe : Json → String
  | .null => "null"
  | .bool b => "boolean `" ++ (if b then "true" else "false") ++ "`"
  | .integer n => "integer `" ++ toString n ++ "`"
  | .float x => "floating point `" ++ x.render ++ "`"
  | .string s => "string " ++ Text.quoted s
  | .array _ => "sequence"
  | .object _ => "map"

/-- How a value fails to have the shape asked for. -/
inductive Mismatch where
  | wrongType (found wanted : String)
  | wrongValue (found wanted : String)
  | wrongLength (length : Nat) (wanted : String)
  | missingField (name : String)
  | duplicateField (name : String)
  | unknownVariant (name : String) (known : List String)
  | noVariant (name : String)
  deriving DecidableEq, Repr

/-- A list of alternatives, each in backticks. -/
def alternatives : List String → String
  | [] => "there are no variants"
  | [a] => "expected `" ++ a ++ "`"
  | [a, b] => "expected `" ++ a ++ "` or `" ++ b ++ "`"
  | many => "expected one of " ++ ", ".intercalate (many.map fun a => "`" ++ a ++ "`")

/-- The words for a mismatch. -/
def Mismatch.message : Mismatch → String
  | .wrongType found wanted => "invalid type: " ++ found ++ ", expected " ++ wanted
  | .wrongValue found wanted => "invalid value: " ++ found ++ ", expected " ++ wanted
  | .wrongLength length wanted => "invalid length " ++ toString length ++ ", expected " ++ wanted
  | .missingField name => "missing field `" ++ name ++ "`"
  | .duplicateField name => "duplicate field `" ++ name ++ "`"
  | .unknownVariant name known => "unknown variant `" ++ name ++ "`, " ++ alternatives known
  | .noVariant name => "data did not match any variant of untagged enum " ++ name

/-- The mismatch of a value of the wrong type. -/
def Mismatch.ofValue (found : Json) (wanted : String) : Mismatch := .wrongType found.describe wanted

/-- A place in a text that is being read: what has not been taken yet, and how many octets of that
the reader has looked at. -/
structure Place where
  rest : List Char
  ahead : Nat
  deriving DecidableEq, Repr

/-- What stops the reading of a text. -/
inductive Cause where
  | flaw (flaw : Flaw)
  | mismatch (mismatch : Mismatch)
  deriving DecidableEq, Repr

def Cause.message : Cause → String
  | .flaw f => f.message
  | .mismatch m => m.message

/-- A stop of the reading: located, or still to be located by what encloses it. -/
inductive Fault where
  | at (cause : Cause) (place : Place)
  | loose (mismatch : Mismatch) (rest : List Char)
  deriving DecidableEq, Repr

/-- Octets of a run of characters. -/
def octetCount (cs : List Char) : Nat := cs.foldl (fun n c => n + c.utf8Size) 0

/-- The line and column of a place: lines count from one, columns count the octets since the
last line break. -/
def Place.lineAndColumn (whole : List Char) (p : Place) : Nat × Nat :=
  let taken := whole.take (whole.length - p.rest.length)
  let line := 1 + (taken.filter (· == '\n')).length
  let column := octetCount (taken.reverse.takeWhile (· != '\n'))
  match p.ahead, p.rest with
  | 0, _ => (line, column)
  | _, [] => (line, column)
  | ahead, rest =>
    -- What was looked at holds whole characters up to its octets; a line break counts as one.
    let rec go : Nat → List Char → Nat × Nat → Nat × Nat
      | 0, _, at' => at'
      | _, [], at' => at'
      | n + 1, c :: more, (l, k) =>
        if c == '\n' then go n more (l + 1, 0)
        else if c.utf8Size ≤ n + 1 then go (n + 1 - c.utf8Size) more (l, k + c.utf8Size)
        else (l, k + (n + 1))
    go ahead rest (line, column)

/-- The message of a fault in a text: with its line and column if it is located. -/
def Fault.message (whole : List Char) : Fault → String
  | .at cause place =>
    let (line, column) := place.lineAndColumn whole
    cause.message ++ " at line " ++ toString line ++ " column " ++ toString column
  | .loose mismatch _ => mismatch.message

end DataShelf.Json
