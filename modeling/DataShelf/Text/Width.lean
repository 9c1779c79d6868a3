import DataShelf.Text.Lead

/-!
# Display width

How many columns a text takes on a character terminal. The characters are counted from the last to
the first, because a variation selector, a ligature or an emoji sequence changes the columns of the
characters in front of it.
-/

namespace DataShelf.Text
set_option autoImplicit false

/-- The variation selectors that change columns. -/
inductive Selector
  /-- The wide form of a quotation mark. -/
  | wide
  /-- The text form of an emoji. -/
  | text
  /-- The emoji form of a character. -/
  | emoji
  deriving DecidableEq, Repr

namespace Selector

def ofChar? : Char → Option Selector
  | '\uFE01' => some .wide
  | '\uFE0E' => some .text
  | '\uFE0F' => some .emoji
  | _ => none

/-- Whether a character has the form that a selector asks for. -/
def selects (c : Char) : Selector → Bool
  | .wide => ['\u2018', '\u2019', '\u201C', '\u201D'].contains c
  | .text => hasTextForm c
  | .emoji => hasEmojiForm c

end Selector

/-- What stands behind a character: how the text behind it leads, and the selector in front of that
text. -/
structure Behind where
  lead : Lead
  selector : Option Selector
  deriving DecidableEq, Repr

namespace Behind

def plain : Behind := ⟨.plain, none⟩

/-- A text without the selector in front of it, which parts all but letters. -/
def withoutSelector (b : Behind) : Lead :=
  match b.selector with
  | none => b.lead
  | some _ => if b.lead.isLetter then b.lead else .plain

/-- A text with a selector in front of it. A selector of the emoji form keeps a joined emoji in
sight. -/
def ofSelector (s : Selector) (l : Lead) : Behind :=
  ⟨if l.isLetter || (s == .emoji && l.awaitsEmoji) then l else .plain, some s⟩

/-- The columns of a character in the form that the selector behind it asks for, and what then
stands behind the next one. An emoji takes none if it goes on with a joined emoji. -/
def selected? (b : Behind) (c : Char) : Option (Int × Behind) :=
  match b.selector with
  | none => none
  | some s =>
    if s.selects c then
      match s with
      | .wide => some (2, plain)
      | .text => some (1, plain)
      | .emoji => some (if b.lead.awaitsEmoji then 0 else 2, ⟨.emoji, none⟩)
    else none

/-- The columns that a character adds in front of a text without a selector, and what then stands
behind the next one. -/
def addPlain (l : Lead) (c : Char) : Int × Behind :=
  if c ≤ '\u00A0' then
    if c == '\n' then (1, ⟨.lineFeed, none⟩)
    else if c == '\r' && l == .lineFeed then (0, plain)
    else (1, plain)
  else
    match Selector.ofChar? c with
    | some s => (0, ofSelector s l)
    | none =>
      if l.isLetter && isLetterGlue c then (0, ⟨l.glue c, none⟩)
      else
        match l.join? c with
        | some (columns, l) => (columns, ⟨l, none⟩)
        | none => (charWidth c, ⟨.ofChar c, none⟩)

/-- The columns that a character adds, and what then stands behind the next one. -/
def add (b : Behind) (c : Char) : Int × Behind :=
  (b.selected? c).getD (addPlain b.withoutSelector c)

end Behind

/-- The columns of the characters of a text, and what they are to a character in front of them. -/
def extent (cs : List Char) : Int × Behind :=
  cs.foldr (fun c (columns, behind) =>
    let (added, behind) := behind.add c
    (columns + added, behind)) (0, .plain)

/-- The columns of a text. -/
def displayWidth (s : String) : Nat := (extent s.toList).1.toNat

end DataShelf.Text
