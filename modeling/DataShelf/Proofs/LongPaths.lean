import DataShelf.Proofs.CatalogInvariant
import DataShelf.Proofs.Following

/-!
# Long paths

A path of more octets than the longest one cannot be followed (`fits_of_node`), so what lies far down in
a tree can be there and yet be out of reach. Single dots lead nowhere (`node_dots`) but make a path as long as one
wants (`length_octets_dots`), so with enough of them a root is still reached and what is in it is not
(`fits_dots_iff`).
-/

namespace DataShelf.Files.FileTree
set_option autoImplicit false

variable {t : FileTree} {p : Path} {way : List Name} {n : Name}

theorem fits_of_concat (h : fits p (way ++ [n])) : fits p way := by
  have longer := Path.length_octets_le_child (way.foldl Path.child p) n
  simp only [fits, List.foldl_append, List.foldl_cons, List.foldl_nil, decide_eq_true_eq] at h ⊢
  omega

/-- The way to where a path leads is short enough. -/
theorem fits_of_node {node : Node} (found : t.node (way.foldl Path.child p) = .ok node) :
    fits p way := by
  obtain ⟨start, there, begun, -, -⟩ := node_eq_ok_iff.1 found
  exact decide_eq_true (start_eq_ok_iff.1 begun).2.2.1

/-- A way that is short enough can be followed down to what is no link. -/
theorem node_of_fits (proper : t.Proper) {node below : Node} (found : t.node p = .ok node)
    (down : node.descend way = some below) (ends : ∀ target, below ≠ .link target)
    (short : fits p way) : t.node (way.foldl Path.child p) = .ok below :=
  node_below proper found down ends (of_decide_eq_true short)

/-- The path of a file is short enough. -/
theorem fits_of_isFile (there : t.isFile (way.foldl Path.child p)) : fits p way := by
  obtain ⟨contents, found⟩ := isFile_iff.1 there
  exact fits_of_node found

theorem fits_of_isDirectory (leads : t.isDirectory (way.foldl Path.child p)) : fits p way := by
  obtain ⟨entries, found⟩ := isDirectory_iff.1 leads
  exact fits_of_node found

end DataShelf.Files.FileTree

namespace DataShelf.Catalog

open Files (FileTree Name Node Path)

variable {t : FileTree}

/-- A way to the working directory with more single dots than it needs. -/
def dots (steps : Nat) : Path := (List.replicate steps Name.dot).foldl Path.child here

theorem ne_empty_of_dots {steps : Nat} : ∀ n ∈ List.replicate steps Name.dot, n ≠ Name.empty := by
  intro n member
  rw [List.eq_of_mem_replicate member]
  decide

/-- A path of dots has as many parts as dots. -/
theorem segments_dots (steps : Nat) : (dots steps).segments = List.replicate (steps + 1) Name.dot := by
  cases steps with
  | zero => rfl
  | succ steps =>
    rw [dots, Path.segments_below ne_empty_of_dots (by simp), List.replicate_succ]
    rfl

/-- Each step adds a slash and a dot. -/
theorem length_octets_dots (steps : Nat) : (dots steps).octets.length = 2 * steps + 1 := by
  have one : here.octets.length = 1 := by decide
  have two (steps : Nat) :
      ((List.replicate steps Name.dot).flatMap fun n => 47 :: n.octets).length = 2 * steps := by
    induction steps with
    | zero => rfl
    | succ steps ih =>
      rw [List.replicate_succ, List.flatMap_cons, List.length_append, ih]
      show 2 + 2 * steps = 2 * (steps + 1)
      omega
  rw [dots, Path.octets_below (by decide) (by decide) ne_empty_of_dots, List.length_append, one, two]
  omega

/-- A path of dots is short enough for a way below it if dots, slashes and names are not too many
octets. -/
theorem fits_dots_iff {steps : Nat} {way : List Name} (named : ∀ n ∈ way, n ≠ Name.empty) :
    FileTree.fits (dots steps) way ↔
      2 * steps + 1 + (way.flatMap fun n => 47 :: n.octets).length ≤ FileTree.longestPath := by
  have filled : (dots steps).segments ≠ [] := by simp [segments_dots]
  have ends : (dots steps).segments.getLast? ≠ some Name.empty := by
    rw [segments_dots, List.getLast?_replicate]
    simp [Name.dot, Name.empty]
  rw [FileTree.fits, decide_eq_true_eq, Path.octets_below filled ends named, List.length_append,
    length_octets_dots]

/-- From the root as working directory, dots lead nowhere else. -/
theorem node_dots {entries : List (Name × Node)} (rooted : t.root = .directory entries)
    (atRoot : t.work = []) {steps : Nat} (short : 2 * steps + 1 ≤ FileTree.longestPath) :
    t.node (dots steps) = .ok t.root := by
  have length := length_octets_dots steps
  have begun : t.start (dots steps) = .ok [] := by
    refine FileTree.start_eq_ok_iff.2 ⟨?_, ?_, by omega, ?_⟩
    · rw [Path.mem_octets_iff _ (by decide), segments_dots]
      rintro ⟨n, member, zero⟩
      rw [List.eq_of_mem_replicate member] at zero
      exact absurd zero (by decide)
    · intro none
      rw [none, List.length_nil] at length
      omega
    · rw [atRoot, ite_self]
  refine FileTree.node_eq_ok_iff.2 ⟨[], [], begun, ?_, Node.descend_nil _⟩
  rw [segments_dots]
  exact FileTree.follow_dots (by rw [Node.descend_nil, rooted]) (steps + 1)

end DataShelf.Catalog
