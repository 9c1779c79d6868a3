import DataShelf.Text.Unprintable
import DataShelf.Text.Hex

/-!
# Quoted text in messages

A message that names a text value shows it in double quotes, with escapes for the quote, the
backslash and every character that has no printed form.
-/

namespace DataShelf.Text
set_option autoImplicit false

/-- The hexadecimal digits of a code point without zeros in front. -/
def codePointDigits (n : Nat) : List Char :=
  match (hexDigits 6 n).dropWhile (· == '0') with
  | [] => ['0']
  | digits => digits

/-- The form of one character inside the quotes. -/
def quotedChar (c : Char) : List Char :=
  if c == '\x00' then ['\\', '0']
  else if c == '\t' then ['\\', 't']
  else if c == '\r' then ['\\', 'r']
  else if c == '\n' then ['\\', 'n']
  else if c == '\\' then ['\\', '\\']
  else if c == '"' then ['\\', '"']
  else if isUnprintable c then
    '\\' :: 'u' :: '\x7b' :: codePointDigits c.toNat ++ ['\x7d']
  else [c]

/-- A text in double quotes, as messages show it. -/
def quoted (s : String) : String :=
  String.ofList ('"' :: s.toList.flatMap quotedChar ++ ['"'])

end DataShelf.Text
