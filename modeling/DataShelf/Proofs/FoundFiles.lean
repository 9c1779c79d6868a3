import DataShelf.Proofs.LongPaths
import DataShelf.Proofs.WalkOrder

/-!
# All files below a directory

A walk sees a file exactly if the way down to it leads past no hidden directory
(`Node.shows_iff`); since links have nothing below them, no way leads past a link either. So what is
found below a directory are the files that lie below it in this sense (`LiesBelow`), as far as their
directories can be opened, each of them once and in the order of their paths
(`finds_all_in_order`). A directory cannot be opened by a path that is too long, and then the files
in it are not found (`deepTree_finds_none`).
-/

namespace DataShelf.Files
set_option autoImplicit false

namespace Node

/-- A walk enters what holds a file unless it is a directory, and hidden. -/
theorem enters_iff {n : Name} {node : Node} {way : List Name} {contents : List UInt8}
    (down : node.descend way = some (.file contents)) :
    isHiddenDirectory n node = false ↔ way = [] ∨ n.isHidden = false := by
  cases way with
  | nil =>
    rw [descend_nil] at down
    cases Option.some.inj down
    simp [isHiddenDirectory, isDirectory]
  | cons m way =>
    obtain ⟨entries, _, rfl, -⟩ := descend_cons_eq_some down
    simp [isHiddenDirectory, isDirectory]

/-- A walk sees the files to which a way leads down past no hidden directory. -/
theorem shows_iff {node : Node} {way : List Name} :
    node.Shows way ↔ (∃ contents, node.descend way = some (.file contents)) ∧
      ∀ n ∈ way.dropLast, n.isHidden = false := by
  induction way generalizing node with
  | nil =>
    rw [shows_nil_iff]
    cases node <;> simp [isFile]
  | cons n way ih =>
    -- What the first name of a way is to be is told by whether the way ends there.
    have first : (∀ m ∈ (n :: way).dropLast, m.isHidden = false) ↔
        (way = [] ∨ n.isHidden = false) ∧ ∀ m ∈ way.dropLast, m.isHidden = false := by
      cases way <;> simp
    rw [shows_cons_iff, first]
    constructor
    · rintro ⟨entries, next, rfl, found, enters, rest⟩
      obtain ⟨⟨contents, down⟩, visible⟩ := ih.1 rest
      refine ⟨⟨contents, ?_⟩, (enters_iff down).1 enters, visible⟩
      rw [descend_cons, found, Option.bind_some, down]
    · rintro ⟨⟨contents, down⟩, enters, visible⟩
      obtain ⟨entries, next, rfl, found, below⟩ := descend_cons_eq_some down
      exact ⟨entries, next, rfl, found, (enters_iff below).2 enters, ih.2 ⟨⟨contents, below⟩, visible⟩⟩

end Node

namespace FileTree

variable {t : FileTree} {p q : Path}

/-- A regular file lies at names below a path, past no symbolic link and in no hidden directory. -/
def LiesBelow (t : FileTree) (p : Path) (way : List Name) : Prop :=
  ∃ node contents, t.node p = .ok node ∧ node.descend way = some (.file contents) ∧
    ∀ n ∈ way.dropLast, n.isHidden = false

/-- A walk sees what lies below a path, as far as it can open the directories. -/
theorem sees_iff_liesBelow :
    t.Sees p q ↔ ∃ way, t.LiesBelow p way ∧ fits p way.dropLast ∧ q = way.foldl Path.child p := by
  constructor
  · rintro ⟨node, way, found, shown, opened, rfl⟩
    obtain ⟨⟨contents, down⟩, visible⟩ := Node.shows_iff.1 shown
    exact ⟨way, ⟨node, contents, found, down, visible⟩, opened, rfl⟩
  · rintro ⟨way, ⟨node, contents, found, down, visible⟩, opened, rfl⟩
    exact ⟨node, way, found, Node.shows_iff.2 ⟨⟨contents, down⟩, visible⟩, opened, rfl⟩

/-- **All files in order.** Below a directory, or below the directory that a link leads to, exactly
those files are found which lie there and are accepted, as far as their directories can be opened.
Each of them is found once, and their paths are in order. -/
theorem finds_all_in_order (proper : t.Proper) (directory : t.isDirectory p)
    (accept : Path → Bool) :
    (t.findFiles p accept).value.Pairwise Path.Before ∧
    (t.findFiles p accept).value.Nodup ∧
    ∀ q, q ∈ (t.findFiles p accept).value ↔
      (∃ way, t.LiesBelow p way ∧ fits p way.dropLast ∧ q = way.foldl Path.child p) ∧ accept q := by
  have sorted := sorted_findFiles proper p accept
  have once : (t.findFiles p accept).value.Nodup := by
    refine sorted.imp fun {q r} before same => ?_
    subst same
    exact before.asymm before
  refine ⟨sorted, once, fun q => ?_⟩
  rw [mem_findFiles_iff accept directory, sees_iff_liesBelow]

end FileTree

/-! ### A walk from a link that leads back -/

section Tangled

open Catalog (here)

/-- A directory with a link to the one above it. -/
def tangledDirectory : Node :=
  .directory [(.ofString "up", .link ⟨[.dotDot]⟩), (.ofString "z", .file [])]

/-- A tree with a hidden directory, a hidden link to the tree itself, and a file whose name begins
with that of a directory. -/
def tangledTree : FileTree where
  root := .directory [(.ofString ".git", .directory [(.ofString "z", .file [])]),
    (.ofString ".self", .link ⟨[.dot]⟩), (.ofString "a", tangledDirectory),
    (.ofString "a.parquet", .file [])]
  work := []

/-- The path of the link. -/
def tangledStart : Path := here.child (.ofString ".self")

theorem tangledTree_proper : tangledTree.Proper :=
  FileTree.proper_of_names (by decide)

theorem tangledStart_leads : tangledTree.node tangledStart = .ok tangledTree.root := by
  have segments : tangledStart.segments = [.dot, .ofString ".self"] := by decide
  have stays : tangledTree.move [] .dot = .step [] := rfl
  have leads : tangledTree.move [] (.ofString ".self") = .link ⟨[.dot]⟩ := rfl
  refine FileTree.node_eq_ok_iff.2 ⟨[], [], rfl, ?_, rfl⟩
  rw [segments]
  simp [FileTree.follow_cons, stays, leads, FileTree.linkLimit, Path.isAbsolute]

/-- The link is not entered, so the ways to files are two. -/
theorem tangledTree_ways : tangledTree.root.waysTo Node.isFile =
    [[.ofString "a", .ofString "z"], [.ofString "a.parquet"]] := by
  have outer : [Name.ofString ".git", .ofString ".self", .ofString "a",
    .ofString "a.parquet"].Pairwise Name.Before := by decide
  have inner : [Name.ofString "up", .ofString "z"].Pairwise Name.Before := by decide
  have hidden : (Name.ofString ".git").isHidden ∧ (Name.ofString "a").isHidden = false := by decide
  have link (target : Path) : (Node.link target).waysTo Node.isFile = [] := by rw [Node.waysTo]
  have inside : tangledDirectory.waysTo Node.isFile = [[.ofString "z"]] := by
    simp [tangledDirectory, waysToFiles_directory, waysToFiles_file, waysThrough, link,
      inOrder_of_sorted, inner, Node.isDirectory, -List.pairwise_cons]
  simp [tangledTree, waysToFiles_directory, waysToFiles_file, waysThrough, link, inside, hidden,
    inOrder_of_sorted, outer, Node.isDirectory, -List.pairwise_cons]

/-- The files are found with the one in the directory first. -/
theorem tangledTree_found : (tangledTree.findFiles tangledStart fun _ => true).value =
    [(tangledStart.child (.ofString "a")).child (.ofString "z"),
      tangledStart.child (.ofString "a.parquet")] := by
  rw [FileTree.findFiles_directory tangledStart_leads, FileTree.filesBelow]
  change ((tangledTree.root.waysTo _).filter _ |>.map _).filter _ = _
  rw [tangledTree_ways]
  decide

/-- From the link the walk finds the two files that are not hidden, the one in the directory first. -/
theorem tangledTree_finds_all :
    tangledTree.Proper ∧ tangledTree.isDirectory tangledStart ∧
    (tangledTree.findFiles tangledStart fun _ => true).value =
      [(tangledStart.child (.ofString "a")).child (.ofString "z"),
        tangledStart.child (.ofString "a.parquet")] ∧
    (tangledTree.findFiles tangledStart fun _ => true).value.Pairwise Path.Before ∧
    (tangledTree.findFiles tangledStart fun _ => true).value.Nodup ∧
    ∀ q, q ∈ (tangledTree.findFiles tangledStart fun _ => true).value ↔
      (∃ way, tangledTree.LiesBelow tangledStart way ∧
        FileTree.fits tangledStart way.dropLast ∧ q = way.foldl Path.child tangledStart) ∧ true := by
  have directory : tangledTree.isDirectory tangledStart := by
    rw [FileTree.isDirectory, tangledStart_leads]
    rfl
  exact ⟨tangledTree_proper, directory, tangledTree_found,
    FileTree.finds_all_in_order tangledTree_proper directory fun _ => true⟩

end Tangled

/-! ### A file in a directory that cannot be opened -/

section Deep

open Catalog (dots)

/-- A tree of a script in a directory. -/
def deepTree : FileTree where
  root := .directory [(.ofString "sales", .directory [(.ofString "a.sql", .file [])])]
  work := []

/-- A path to its root from which the directory cannot be opened. -/
def deepRoot : Path := dots 2045

theorem deepTree_proper : deepTree.Proper :=
  FileTree.proper_of_names (by decide)

theorem deepRoot_leads : deepTree.node deepRoot = .ok deepTree.root :=
  Catalog.node_dots rfl rfl (by decide)

theorem deepRoot_isDirectory : deepTree.isDirectory deepRoot := by
  rw [FileTree.isDirectory, deepRoot_leads]
  rfl

/-- The path of the directory is too long. -/
theorem deepRoot_closed : ¬FileTree.fits deepRoot [.ofString "sales"] := by
  rw [deepRoot, Catalog.fits_dots_iff (by decide)]
  decide

/-- The script lies below the root of the deep tree, without a hidden directory or a link on the
way. -/
theorem deepTree_liesBelow :
    deepTree.LiesBelow deepRoot [.ofString "sales", .ofString "a.sql"] := by
  refine ⟨_, [], deepRoot_leads, ?_, by decide⟩
  simp [deepTree, Node.named?]

/-- No walk comes to the script, whatever it looks for. -/
theorem deepTree_found (accept : Path → Bool) : (deepTree.findFiles deepRoot accept).value = [] := by
  have ways : deepTree.root.waysTo Node.isFile = [[.ofString "sales", .ofString "a.sql"]] := by
    have visible : (Name.ofString "sales").isHidden = false := by decide
    simp [deepTree, waysToFiles_directory, waysToFiles_file, waysThrough, visible,
      inOrder_of_sorted, List.pairwise_singleton, Node.isDirectory, -List.pairwise_cons]
  rw [FileTree.findFiles_directory deepRoot_leads, FileTree.filesBelow]
  change ((deepTree.root.waysTo _).filter _ |>.map _).filter _ = _
  rw [ways]
  simp [deepRoot_closed]

/-- A file that lies below a directory, in no hidden directory and behind no link, is not found if
the path of the directory that holds it is too long. -/
theorem deepTree_finds_none :
    deepTree.Proper ∧ deepTree.isDirectory deepRoot ∧
    deepTree.LiesBelow deepRoot [.ofString "sales", .ofString "a.sql"] ∧
    (deepTree.findFiles deepRoot fun _ => true).value = [] :=
  ⟨deepTree_proper, deepRoot_isDirectory, deepTree_liesBelow, deepTree_found _⟩

end Deep
end DataShelf.Files
