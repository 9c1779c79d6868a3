import DataShelf.Files.Path

/-!
# File trees

A tree holds files, directories and symbolic links; a path is followed from the working directory,
or from the root if it is absolute (`FileTree.locate`). Links are followed on the way and, unless
the link itself is meant, at the end, forty of them at most; the directory above the root is the
root. Entries of a directory are told apart by name: the first of a name counts.

A tree has no permissions and no disk that could fail. What a path leads to can be read, listed and
changed, and the reasons why a path cannot be used are those that the tree itself gives.
-/

namespace DataShelf.Files
set_option autoImplicit false

/-- A file, a directory or a symbolic link. -/
inductive Node where
  | file (contents : List UInt8)
  | directory (entries : List (Name × Node))
  | link (target : Path)
  deriving Inhabited

/-- Why a path cannot be used. -/
inductive FileError where
  | notFound
  | exists
  | notDirectory
  | isDirectory
  | nameTooLong
  | tooManyLinks
  | holdsNull
  | notText
  deriving DecidableEq, Repr

/-- The words for a file error. -/
def FileError.message : FileError → String
  | .notFound => "No such file or directory (os error 2)"
  | .exists => "File exists (os error 17)"
  | .notDirectory => "Not a directory (os error 20)"
  | .isDirectory => "Is a directory (os error 21)"
  | .nameTooLong => "File name too long (os error 36)"
  | .tooManyLinks => "Too many levels of symbolic links (os error 40)"
  | .holdsNull => "file name contained an unexpected NUL byte"
  | .notText => "stream did not contain valid UTF-8"

namespace Node

/-- The first entry of a name. -/
def named? (name : Name) : List (Name × Node) → Option Node
  | [] => none
  | (n, node) :: rest => if n = name then some node else named? name rest

/-- Entries with one more, or with another node under a name that is there. -/
def putEntry (name : Name) (node : Node) : List (Name × Node) → List (Name × Node)
  | [] => [(name, node)]
  | (n, old) :: rest =>
    if n = name then (n, node) :: rest else (n, old) :: putEntry name node rest

/-- Entries without those of a name. -/
def dropEntry (name : Name) (entries : List (Name × Node)) : List (Name × Node) :=
  entries.filter fun e => !(e.1 == name)

/-- The node at names below this one; links are not followed. -/
def descend : Node → List Name → Option Node
  | node, [] => some node
  | .directory entries, n :: names => (named? n entries).bind fun node => node.descend names
  | _, _ :: _ => none

/-- Changes the entries of the directory at names below this node. -/
def alter (change : List (Name × Node) → List (Name × Node)) : Node → List Name → Node
  | .directory entries, [] => .directory (change entries)
  | .directory entries, n :: names =>
    match named? n entries with
    | some node => .directory (putEntry n (node.alter change names) entries)
    | none => .directory entries
  | node, _ => node
termination_by _ names => names.length

def isFile : Node → Bool
  | .file _ => true
  | _ => false

def isDirectory : Node → Bool
  | .directory _ => true
  | _ => false

end Node

/-- A root directory and the way from it to the working directory. -/
structure FileTree where
  root : Node
  work : List Name
  deriving Inhabited

namespace FileTree

/-- The longest name that a directory can hold. -/
def longestName : Nat := 255

/-- The longest path that can be followed. -/
def longestPath : Nat := 4095

/-- How many links may be followed on one way. -/
def linkLimit : Nat := 40

/-- Follows parts of a path from a place, given by the names that lead to it from the root, as long
as `links` are left. Answers the place where the way ends; `last` says whether a link at the very
end is followed. -/
def follow (t : FileTree) (last : Bool) :
    (links : Nat) → (place : List Name) → (parts : List Name) → Except FileError (List Name)
  | _, place, [] => .ok place
  | links, place, part :: rest =>
    match t.root.descend place with
    | some (.directory entries) =>
      if part.isIdle then follow t last links place rest
      else if part == Name.dotDot then follow t last links place.dropLast rest
      else if longestName < part.octets.length then .error .nameTooLong
      else
        match Node.named? part entries with
        | none => .error .notFound
        | some (.link target) =>
          if rest.isEmpty && !last then .ok (place ++ [part])
          else
            match links with
            | 0 => .error .tooManyLinks
            | links + 1 =>
              follow t last links (if target.isAbsolute then [] else place)
                (target.segments ++ rest)
        | some _ => follow t last links (place ++ [part]) rest
    | _ => .error .notDirectory
termination_by links _ parts => (links, parts.length)

/-- The place from which a path is followed. -/
def start (t : FileTree) (p : Path) : Except FileError (List Name) :=
  if p.octets.contains 0 then .error .holdsNull
  else if p.octets.isEmpty then .error .notFound
  else if longestPath < p.octets.length then .error .nameTooLong
  else .ok (if p.isAbsolute then [] else t.work)

/-- The place that a path leads to. -/
def locate (t : FileTree) (last : Bool) (p : Path) : Except FileError (List Name) := do
  let start ← t.start p
  t.follow last linkLimit start p.segments

/-- The node that a path leads to, links followed. -/
def node (t : FileTree) (p : Path) : Except FileError Node := do
  let place ← t.locate true p
  match t.root.descend place with
  | some node => .ok node
  | none => .error .notFound

/-- The node that a path leads to; a link at its end is the node. -/
def ownNode (t : FileTree) (p : Path) : Except FileError Node := do
  let place ← t.locate false p
  match t.root.descend place with
  | some node => .ok node
  | none => .error .notFound

/-- Whether a path leads to a file. -/
def isFile (t : FileTree) (p : Path) : Bool :=
  match t.node p with
  | .ok (.file _) => true
  | _ => false

/-- Whether a path leads to a directory. -/
def isDirectory (t : FileTree) (p : Path) : Bool :=
  match t.node p with
  | .ok (.directory _) => true
  | _ => false

/-- Whether a path leads anywhere. -/
def «exists» (t : FileTree) (p : Path) : Bool :=
  match t.node p with
  | .ok _ => true
  | .error _ => false

/-- The contents of a file. -/
def readFile (t : FileTree) (p : Path) : Except FileError (List UInt8) :=
  match t.node p with
  | .ok (.file contents) => .ok contents
  | .ok _ => .error .isDirectory
  | .error e => .error e

/-- The contents of a file that is text. -/
def readText (t : FileTree) (p : Path) : Except FileError String := do
  let contents ← t.readFile p
  match Text.ofOctets? contents with
  | some s => .ok s
  | none => .error .notText

/-- The entries of a directory. -/
def entries (t : FileTree) (p : Path) : Except FileError (List (Name × Node)) :=
  match t.node p with
  | .ok (.directory entries) => .ok entries
  | .ok _ => .error .notDirectory
  | .error e => .error e

/-! ### Changes -/

/-- Changes the entries of the directory at a place. -/
def alter (t : FileTree) (place : List Name) (change : List (Name × Node) → List (Name × Node)) :
    FileTree :=
  { t with root := t.root.alter change place }

/-- The last of the parts of a path and those that lead to it. Slashes at the end do not count. -/
def splitEnd? (parts : List Name) : Option (List Name × Name) :=
  match parts.reverse.dropWhile (· == Name.empty) with
  | [] => none
  | name :: before => some (before.reverse, name)

/-- The directory at the end of parts, and its entries. -/
def followToDirectory (t : FileTree) (links : Nat) (start : List Name) (parts : List Name) :
    Except FileError (List Name × List (Name × Node)) := do
  let place ← t.follow true links start parts
  match t.root.descend place with
  | some (.directory entries) => .ok (place, entries)
  | _ => .error .notDirectory

/-- The place of the directory that is to hold the end of a path, and the name there, which is not
taken. -/
def freeSlot (t : FileTree) (p : Path) : Except FileError (List Name × Name) := do
  let start ← t.start p
  match splitEnd? p.segments with
  | none => .error .exists
  | some (before, name) =>
    let (place, entries) ← t.followToDirectory linkLimit start before
    if name == Name.dot || name == Name.dotDot || (Node.named? name entries).isSome then
      .error .exists
    else if longestName < name.octets.length then .error .nameTooLong
    else .ok (place, name)

/-- The place of the directory that holds the file at the end of parts, or is to hold it, and the
name there. A link at the end is followed also when it leads nowhere, and what ends in a slash or
in dots is a directory. -/
def fileSlot (t : FileTree) :
    (links : Nat) → (start : List Name) → (parts : List Name) → Except FileError (List Name × Name)
  | links, start, parts =>
    match splitEnd? parts with
    | none => .error .isDirectory
    | some (before, name) => do
      let (place, entries) ← t.followToDirectory links start before
      if name == Name.dot || name == Name.dotDot || parts.getLast? == some Name.empty then
        .error .isDirectory
      else if longestName < name.octets.length then .error .nameTooLong
      else
        match Node.named? name entries with
        | some (.directory _) => .error .isDirectory
        | some (.link target) =>
          match links with
          | 0 => .error .tooManyLinks
          | links + 1 =>
            t.fileSlot links (if target.isAbsolute then [] else place) target.segments
        | _ => .ok (place, name)

/-- Makes one directory. -/
def makeDirectory (t : FileTree) (p : Path) : Except FileError FileTree := do
  let (place, name) ← t.freeSlot p
  .ok (t.alter place (Node.putEntry name (.directory [])))

/-- Makes a directory and those above it that are missing, as far up as `steps` allow. -/
def makeDirectories : (steps : Nat) → FileTree → Path → Except FileError FileTree
  | 0, t, _ => .ok t
  | steps + 1, t, p =>
    if p == Path.empty then .ok t
    else
      match t.makeDirectory p with
      | .ok t => .ok t
      | .error .notFound => do
        match p.parent? with
        | none => .error .notFound
        | some above =>
          let t ← makeDirectories steps t above
          match t.makeDirectory p with
          | .ok t => .ok t
          | .error e => if t.isDirectory p then .ok t else .error e
      | .error e => if t.isDirectory p then .ok t else .error e

/-- Makes a directory with all that lead to it. -/
def ensureDirectory (t : FileTree) (p : Path) : Except FileError FileTree :=
  makeDirectories (p.segments.length + 1) t p

/-- Writes a file where a path leads, new or in place of its contents. -/
def writeFile (t : FileTree) (p : Path) (contents : List UInt8) : Except FileError FileTree := do
  let start ← t.start p
  let (place, name) ← t.fileSlot linkLimit start p.segments
  .ok (t.alter place (Node.putEntry name (.file contents)))

/-- Makes a symbolic link. -/
def writeLink (t : FileTree) (p target : Path) : Except FileError FileTree := do
  let (place, name) ← t.freeSlot p
  .ok (t.alter place (Node.putEntry name (.link target)))

/-- Removes what a path leads to, a directory with all it holds. -/
def remove (t : FileTree) (p : Path) : Except FileError FileTree := do
  let place ← t.locate false p
  match place.getLast? with
  | some name => .ok (t.alter place.dropLast (Node.dropEntry name))
  | none => .ok t

end FileTree
end DataShelf.Files
