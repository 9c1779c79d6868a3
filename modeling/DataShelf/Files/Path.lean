import DataShelf.Text.Utf8

/-!
# Paths

A path is what stands between its slashes; a name is any run of octets. `join` puts a path below
another one, where an absolute path starts over. `components` are what counts on the way: empty
parts and single dots do not, a dot at the very beginning apart.
-/

namespace DataShelf.Files
set_option autoImplicit false

/-- The name of a file or directory, or a part of a path. -/
structure Name where
  octets : List UInt8
  deriving DecidableEq, Inhabited, Repr

namespace Name

/-- The name that a text spells. -/
def ofString (s : String) : Name := ⟨Text.octets s⟩

/-- The name as text, if it is well-formed UTF-8. -/
def text? (n : Name) : Option String := Text.ofOctets? n.octets

/-- The name as it is shown. -/
def display (n : Name) : String := Text.display n.octets

@[simp] theorem text?_ofString (s : String) : (ofString s).text? = some s :=
  Text.ofOctets?_octets s

/-- The part between two slashes that follow each other. -/
def empty : Name := ⟨[]⟩

/-- The directory itself. -/
def dot : Name := ⟨[46]⟩

/-- The directory above. -/
def dotDot : Name := ⟨[46, 46]⟩

/-- A part that leads nowhere. -/
def isIdle (n : Name) : Bool := n == empty || n == dot

/-- Octet order of names. -/
def le (a b : Name) : Bool := decide (a.octets ≤ b.octets)

/-- What stands before and behind the last dot of a name. A name that begins with its only dot has
none that counts. -/
def splitExtension (n : Name) : Name × Option Name :=
  if n == dotDot then (n, none)
  else
    let reversed := n.octets.reverse
    let after := (reversed.takeWhile (· != 46)).reverse
    match reversed.dropWhile (· != 46) with
    | [] => (n, none)
    | _ :: before => if before.isEmpty then (n, none) else (⟨before.reverse⟩, some ⟨after⟩)

/-- The name without its extension. -/
def stem (n : Name) : Name := n.splitExtension.1

/-- What stands behind the last dot of a name. -/
def extension? (n : Name) : Option Name := n.splitExtension.2

/-- A small letter for each ASCII capital. -/
def lowerOctet (b : UInt8) : UInt8 := if 65 ≤ b && b ≤ 90 then b + 32 else b

/-- Whether the extension is a given one, up to the case of ASCII letters. -/
def hasExtension (n : Name) (extension : String) : Bool :=
  match n.extension? with
  | some e => e.text?.isSome && e.octets.map lowerOctet == (Text.octets extension).map lowerOctet
  | none => false

/-- A name that is text and begins with a dot. -/
def isHidden (n : Name) : Bool := n.text?.isSome && n.octets.head? == some 46

end Name

/-- The parts between the slashes of a path. The path of no octets has one empty part. -/
structure Path where
  segments : List Name
  deriving DecidableEq, Inhabited, Repr

namespace Path

/-- Cuts octets at each slash. -/
def splitSlashes : List UInt8 → List Name
  | [] => [⟨[]⟩]
  | b :: rest =>
    match splitSlashes rest with
    | [] => [⟨[b]⟩]
    | first :: others => if b == 47 then ⟨[]⟩ :: first :: others else ⟨b :: first.octets⟩ :: others

/-- The path that octets spell. -/
def ofOctets (bytes : List UInt8) : Path := ⟨splitSlashes bytes⟩

/-- The path that a text spells. -/
def ofString (s : String) : Path := ofOctets (Text.octets s)

/-- A path of one name. -/
def ofName (n : Name) : Path := ⟨[n]⟩

/-- The octets of a path. -/
def octets (p : Path) : List UInt8 := [47].intercalate (p.segments.map (·.octets))

/-- The path as it is shown. -/
def display (p : Path) : String := Text.display p.octets

/-- The path of no octets. -/
def empty : Path := ⟨[Name.empty]⟩

/-- A path that begins with a slash. -/
def isAbsolute (p : Path) : Bool :=
  match p.segments with
  | first :: _ :: _ => first == Name.empty
  | _ => false

/-- The path `q` below `p`; an absolute one starts over. -/
def join (p q : Path) : Path :=
  if q.isAbsolute then q
  else if p.segments.getLast? == some Name.empty then ⟨p.segments.dropLast ++ q.segments⟩
  else ⟨p.segments ++ q.segments⟩

/-- A name below a path. -/
def child (p : Path) (n : Name) : Path := p.join (ofName n)

/-- The path below `p` that a text spells. -/
def joinText (p : Path) (s : String) : Path := p.join (ofString s)

/-- A step of the way that a path describes. -/
inductive Component where
  | root
  | current
  | parent
  | normal (name : Name)
  deriving DecidableEq, Repr

/-- The component that a part is, behind the first one. -/
def componentOf? (n : Name) : Option Component :=
  if n.isIdle then none else if n == Name.dotDot then some .parent else some (.normal n)

/-- What counts on the way that a path describes. -/
def components (p : Path) : List Component :=
  match p.segments with
  | [] => []
  | first :: rest =>
    let head : Option Component :=
      if first == Name.empty then (if rest.isEmpty then none else some .root)
      else if first == Name.dot then some .current
      else componentOf? first
    head.toList ++ rest.filterMap componentOf?

/-- The parts of a path in reverse, without idle ones at the end. The first part never counts as
idle here, unless it is the only one and empty. -/
def trimmedReverse (segments : List Name) : List Name :=
  match segments with
  | [] => []
  | first :: rest =>
    let kept := rest.reverse.dropWhile Name.isIdle
    if kept.isEmpty && rest.isEmpty && first == Name.empty then [] else kept ++ [first]

/-- The path that leads to the last component, if there is one that is no root. -/
def parent? (p : Path) : Option Path :=
  match trimmedReverse p.segments with
  | [] => none
  | [first] => if first == Name.empty then none else some empty
  | _ :: before =>
    match before.dropWhile Name.isIdle with
    | [] =>
      -- Only the first part is left, be it the root or a single dot.
      match p.segments with
      | first :: _ =>
        if first == Name.empty then some ⟨[Name.empty, Name.empty]⟩ else some ⟨[first]⟩
      | [] => some empty
    | kept => some ⟨kept.reverse⟩

/-- The last component, if it is a name. -/
def fileName? (p : Path) : Option Name :=
  match p.components.getLast? with
  | some (.normal n) => some n
  | _ => none

/-- The file name without its extension. -/
def stem? (p : Path) : Option Name := p.fileName?.map Name.stem

/-- Whether the file name has an extension, up to the case of ASCII letters. -/
def hasExtension (p : Path) (extension : String) : Bool :=
  match p.fileName? with
  | some n => n.hasExtension extension
  | none => false

end Path
end DataShelf.Files
