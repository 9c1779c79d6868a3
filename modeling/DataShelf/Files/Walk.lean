import DataShelf.Files.Tree
import DataShelf.Trace

/-!
# Walks through directories

`FileTree.findFiles` lists the files below a directory, at any depth, in octet order of the names on
the way. Links below the start are not followed and hidden directories are not entered; what cannot
be walked, also since its path is too long, is noticed and gives nothing.
-/

namespace DataShelf.Files
set_option autoImplicit false

/-- The first of the items with each name. -/
def firstOfEach {α : Type} : List (Name × α) → List (Name × α)
  | [] => []
  | e :: rest => e :: (firstOfEach rest).filter fun other => !(other.1 == e.1)

/-- Items in the order of their names, one for each name. -/
def inOrder {α : Type} (items : List (Name × α)) : List (Name × α) :=
  (firstOfEach items).mergeSort fun a b => a.1.le b.1

mutual

/-- The ways that a walk goes from a node to nodes of a kind, in order: to files, and to directories
before what is in them. The way to the node itself is empty. -/
def Node.waysTo (kind : Node → Bool) : Node → List (List Name)
  | .file contents => if kind (.file contents) then [[]] else []
  | .link _ => []
  | .directory entries =>
    (if kind (.directory entries) then [[]] else []) ++
      (inOrder (waysThrough kind entries)).flatMap fun e => e.2.map (e.1 :: ·)

/-- For each entry of a directory, the ways that a walk goes from it; none where the entry is a
hidden directory. -/
def waysThrough (kind : Node → Bool) : List (Name × Node) → List (Name × List (List Name))
  | [] => []
  | (n, node) :: rest =>
    (n, if node.isDirectory && n.isHidden then [] else node.waysTo kind) :: waysThrough kind rest

end

namespace FileTree

/-- The notice that a walk from a path could not begin or go on at another one. -/
def walkFailure (p q : Path) (e : FileError) : String :=
  "Error walking " ++ p.display ++ ": IO error for operation on " ++ q.display ++ ": " ++ e.message

/-- Whether the way down from a path is short enough to be followed. -/
def fits (p : Path) (way : List Name) : Bool :=
  (way.foldl Path.child p).octets.length ≤ longestPath

/-- The paths of the files that a walk comes to. A directory has to be opened for what is in it. -/
def filesBelow (p : Path) (node : Node) : List Path :=
  ((node.waysTo Node.isFile).filter fun way => fits p way.dropLast).map
    fun way => way.foldl Path.child p

/-- The paths of the directories at which a walk stops, for they are too long to be followed. -/
def closedBelow (p : Path) (node : Node) : List Path :=
  ((node.waysTo Node.isDirectory).filter fun way => fits p way.dropLast && !fits p way).map
    fun way => way.foldl Path.child p

/-- The files below a path that a condition accepts. -/
def findFiles (t : FileTree) (p : Path) (accept : Path → Bool) : Traced (List Path) :=
  let below (node : Node) : Traced (List Path) := do
    (closedBelow p node).forM fun q => Traced.warn (walkFailure p q .nameTooLong)
    return (filesBelow p node).filter accept
  match t.ownNode p with
  | .error e => do
    Traced.warn (walkFailure p p e)
    return []
  | .ok (.link _) =>
    match t.node p with
    | .error e => do
      Traced.warn (walkFailure p p e)
      return []
    | .ok (.directory entries) => below (.directory entries)
    | .ok _ => return []
  | .ok node => below node

/-- The directories and links to directories in a directory, in order. -/
def subdirectories (t : FileTree) (p : Path) : Traced (List Path) :=
  match t.entries p with
  | .error e => do
    Traced.warn ("Error scanning directory " ++ p.display ++ ": " ++ e.message)
    return []
  | .ok entries =>
    return ((inOrder entries).map fun e => p.child e.1).filter t.isDirectory

end FileTree
end DataShelf.Files
