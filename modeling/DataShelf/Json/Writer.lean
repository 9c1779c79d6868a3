import DataShelf.Json.Basic
import DataShelf.Text.Hex

/-!
# Writing JSON text

`compact` writes a value on one line without spaces. `pretty` puts each element and each member on a
line of its own, two spaces further in than its container; empty containers stay closed. Both escape
the quote, the backslash and the control characters below the space and nothing else, so the text of
a value has no line break inside a string.
-/

namespace DataShelf.Json
set_option autoImplicit false

/-- A character as it stands between quotes. -/
def escapeChar (c : Char) : List Char :=
  if c == '"' then ['\\', '"']
  else if c == '\\' then ['\\', '\\']
  else if c.toNat < 0x20 then
    if c == '\x08' then ['\\', 'b']
    else if c == '\t' then ['\\', 't']
    else if c == '\n' then ['\\', 'n']
    else if c == '\x0c' then ['\\', 'f']
    else if c == '\r' then ['\\', 'r']
    else '\\' :: 'u' :: Text.hexDigits 4 c.toNat
  else [c]

/-- A text in quotes. -/
def writeText (s : String) : List Char := '"' :: (s.toList.flatMap escapeChar ++ ['"'])

/-- A value that is neither list nor object; the others are left to `write`. -/
def writeScalar : Json → List Char
  | .null => "null".toList
  | .bool b => (if b then "true" else "false").toList
  | .integer n => (toString n).toList
  | .float x => (if x.isFinite then x.render else "null").toList
  | .string s => writeText s
  | .array _ => []
  | .object _ => []

mutual

/-- A value on one line. -/
def write : Json → List Char
  | .array items => '[' :: (writeElements items ++ [']'])
  | .object fields => '\x7b' :: (writeMembers fields ++ ['\x7d'])
  | j => writeScalar j

/-- Elements with commas between them. -/
def writeElements : List Json → List Char
  | [] => []
  | [j] => write j
  | j :: rest => write j ++ ',' :: writeElements rest

/-- Members with commas between them. -/
def writeMembers : List (String × Json) → List Char
  | [] => []
  | [(k, j)] => writeText k ++ ':' :: write j
  | (k, j) :: rest => writeText k ++ ':' :: (write j ++ ',' :: writeMembers rest)

end

/-- A value as text on one line. -/
def compact (j : Json) : String := String.ofList (write j)

/-- A line break and the spaces of an indentation. -/
def breakLine (depth : Nat) : List Char := '\n' :: List.replicate (2 * depth) ' '

mutual

/-- A value over several lines; its own lines begin at the given depth. -/
def writeWide (depth : Nat) : Json → List Char
  | .array [] => ['[', ']']
  | .array items => '[' :: (writeWideElements (depth + 1) items ++ breakLine depth ++ [']'])
  | .object [] => ['\x7b', '\x7d']
  | .object fields => '\x7b' :: (writeWideMembers (depth + 1) fields ++ breakLine depth ++ ['\x7d'])
  | j => writeScalar j

/-- Elements, each on a line of its own. -/
def writeWideElements (depth : Nat) : List Json → List Char
  | [] => []
  | [j] => breakLine depth ++ writeWide depth j
  | j :: rest => breakLine depth ++ (writeWide depth j ++ ',' :: writeWideElements depth rest)

/-- Members, each on a line of its own. -/
def writeWideMembers (depth : Nat) : List (String × Json) → List Char
  | [] => []
  | [(k, j)] => breakLine depth ++ (writeText k ++ ':' :: ' ' :: writeWide depth j)
  | (k, j) :: rest =>
    breakLine depth ++
      (writeText k ++ ':' :: ' ' :: (writeWide depth j ++ ',' :: writeWideMembers depth rest))

end

/-- A value as text over several lines. -/
def pretty (j : Json) : String := String.ofList (writeWide 0 j)

end DataShelf.Json
