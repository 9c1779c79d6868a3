import DataShelf.Files.Walk
import DataShelf.Proofs.Following
import DataShelf.Proofs.Trace

/-!
# What a walk finds

A walk sees a file if it can go down to it by names, past no hidden directory and no link
(`Node.Shows`). The ways that it lists are those (`mem_waysToFiles_iff`), so what it finds below a
path is what it sees there (`mem_findFiles`), and below a directory that is all that it sees
(`mem_findFiles_iff`).
-/

namespace DataShelf.Files
set_option autoImplicit false

/-! ### One of each name -/

section Items

variable {α : Type} {items : List (Name × α)} {e : Name × α}

/-- Of the items with a name the first is kept. -/
theorem mem_firstOfEach_iff :
    e ∈ firstOfEach items ↔ items.find? (fun o => o.1 == e.1) = some e := by
  induction items with
  | nil => simp [firstOfEach]
  | cons head rest ih =>
    by_cases same : head.1 = e.1
    · simp [firstOfEach, ih, same, eq_comm]
    · have other : e ≠ head := fun h => same (congrArg Prod.fst h).symm
      simp [firstOfEach, ih, same, other, Ne.symm same]

theorem mem_inOrder_iff : e ∈ inOrder items ↔ items.find? (fun o => o.1 == e.1) = some e := by
  rw [inOrder, List.mem_mergeSort, mem_firstOfEach_iff]

end Items

/-! ### Ways to files -/

namespace Node

/-- A hidden directory, which a walk does not enter. -/
def isHiddenDirectory (n : Name) (node : Node) : Bool := node.isDirectory && n.isHidden

/-- A walk that begins at the node comes to a file by going down the names. -/
inductive Shows : Node → List Name → Prop
  | file (contents : List UInt8) : Shows (.file contents) []
  | entry {entries : List (Name × Node)} {n : Name} {node : Node} {way : List Name}
      (found : named? n entries = some node) (enters : isHiddenDirectory n node = false)
      (rest : Shows node way) : Shows (.directory entries) (n :: way)

/-- A file shows itself. -/
theorem shows_nil_iff {node : Node} : node.Shows [] ↔ node.isFile := by
  constructor
  · rintro ⟨⟩
    rfl
  · cases node with
    | file contents => exact fun _ => .file contents
    | directory entries => exact nofun
    | link target => exact nofun

/-- A directory shows what an entry shows that is not hidden. -/
theorem shows_cons_iff {node : Node} {n : Name} {way : List Name} :
    node.Shows (n :: way) ↔ ∃ entries next, node = .directory entries ∧
      named? n entries = some next ∧ isHiddenDirectory n next = false ∧ next.Shows way := by
  constructor
  · rintro (_ | ⟨found, enters, rest⟩)
    exact ⟨_, _, rfl, found, enters, rest⟩
  · rintro ⟨entries, next, rfl, found, enters, rest⟩
    exact .entry found enters rest

/-- From a directory a walk goes on by an entry. -/
theorem shows_directory_iff {entries : List (Name × Node)} {way : List Name} :
    (directory entries).Shows way ↔ ∃ n rest next, way = n :: rest ∧
      (directory entries).descend [n] = some next ∧ isHiddenDirectory n next = false ∧
      next.Shows rest := by
  cases way with
  | nil => simp [shows_nil_iff, isFile]
  | cons n way =>
    rw [shows_cons_iff]
    constructor
    · rintro ⟨_, next, same, found, enters, rest⟩
      cases same
      exact ⟨n, way, next, rfl, by simpa using found, enters, rest⟩
    · rintro ⟨_, _, next, same, found, enters, rest⟩
      cases same
      exact ⟨entries, next, rfl, by simpa using found, enters, rest⟩

/-- A walk that begins at a file ends there. -/
theorem shows_file_iff {contents : List UInt8} {way : List Name} :
    (file contents).Shows way ↔ way = [] := by
  constructor
  · rintro ⟨⟩
    rfl
  · rintro rfl
    exact .file contents

/-- The way to a file that a walk sees leads down to it. -/
theorem Shows.descend {node : Node} {way : List Name} (h : node.Shows way) :
    ∃ contents, node.descend way = some (.file contents) := by
  induction h with
  | file contents => exact ⟨contents, rfl⟩
  | entry found _ _ ih =>
    obtain ⟨contents, down⟩ := ih
    exact ⟨contents, by simp [found, down]⟩

end Node

theorem waysThrough_eq_map (kind : Node → Bool) (entries : List (Name × Node)) :
    waysThrough kind entries = entries.map fun e =>
      (e.1, if Node.isHiddenDirectory e.1 e.2 then [] else e.2.waysTo kind) := by
  induction entries with
  | nil => rw [waysThrough, List.map_nil]
  | cons head rest ih =>
    obtain ⟨n, node⟩ := head
    rw [waysThrough, ih, List.map_cons, Node.isHiddenDirectory]

/-- In order, each name leads the ways of its first entry, or none if that is hidden. -/
theorem mem_inOrder_waysThrough_iff {kind : Node → Bool} {entries : List (Name × Node)} {n : Name}
    {ways : List (List Name)} :
    (n, ways) ∈ inOrder (waysThrough kind entries) ↔
      ∃ node, Node.named? n entries = some node ∧
        ways = if Node.isHiddenDirectory n node then [] else node.waysTo kind := by
  rw [mem_inOrder_iff, waysThrough_eq_map, List.find?_map, Option.map_eq_some_iff]
  constructor
  · rintro ⟨⟨m, node⟩, found, same⟩
    obtain ⟨rfl, rfl⟩ := Prod.mk.inj same
    exact ⟨node, Node.named?_eq_some_iff.2 found, rfl⟩
  · rintro ⟨node, found, rfl⟩
    exact ⟨(n, node), Node.named?_eq_some_iff.1 found, rfl⟩

theorem waysToFiles_file (contents : List UInt8) :
    (Node.file contents).waysTo Node.isFile = [[]] := by
  rw [Node.waysTo]
  rfl

theorem waysToFiles_directory (entries : List (Name × Node)) :
    (Node.directory entries).waysTo Node.isFile =
      (inOrder (waysThrough Node.isFile entries)).flatMap fun e => e.2.map (e.1 :: ·) := by
  rw [Node.waysTo]
  rfl

/-- **The ways of a walk.** A walk lists the ways to the files that it sees. -/
theorem mem_waysToFiles_iff {node : Node} {way : List Name} :
    way ∈ node.waysTo Node.isFile ↔ node.Shows way := by
  induction way generalizing node with
  | nil => cases node <;> simp [Node.waysTo, Node.shows_nil_iff, Node.isFile]
  | cons n way ih =>
    cases node with
    | file contents => simp [waysToFiles_file, Node.shows_cons_iff]
    | link target => simp [Node.waysTo, Node.shows_cons_iff]
    | directory entries =>
      rw [waysToFiles_directory, List.mem_flatMap, Node.shows_cons_iff]
      constructor
      · rintro ⟨⟨m, ways⟩, listed, member⟩
        obtain ⟨rest, inside, same⟩ := List.mem_map.1 member
        obtain ⟨rfl, rfl⟩ := List.cons.inj same
        obtain ⟨next, found, rfl⟩ := mem_inOrder_waysThrough_iff.1 listed
        split at inside
        · cases inside
        · next enters =>
          exact ⟨entries, next, rfl, found, by simpa using enters, ih.1 inside⟩
      · rintro ⟨_, next, same, found, enters, rest⟩
        cases same
        refine ⟨(n, next.waysTo Node.isFile), mem_inOrder_waysThrough_iff.2 ⟨next, found, ?_⟩,
          List.mem_map.2 ⟨way, ih.2 rest, rfl⟩⟩
        rw [enters]
        rfl

/-! ### Files found below a path -/

namespace FileTree

variable {t : FileTree} {p q : Path} {accept : Path → Bool}

/-- The path is that of a file which a walk from another path sees. The directories on the way have
to be opened, so their paths must not be too long. -/
def Sees (t : FileTree) (p q : Path) : Prop :=
  ∃ node way, t.node p = .ok node ∧ node.Shows way ∧ fits p way.dropLast ∧
    q = way.foldl Path.child p

/-- The path is that of a file in the tree: of one that it leads to itself, or of one that stands
at names below where a path leads. -/
def HoldsFile (t : FileTree) (q : Path) : Prop :=
  ∃ p node way contents, t.node p = .ok node ∧ node.descend way = some (.file contents) ∧
    q = way.foldl Path.child p

theorem Sees.holdsFile (h : t.Sees p q) : t.HoldsFile q := by
  obtain ⟨node, way, found, shown, -, rfl⟩ := h
  obtain ⟨contents, down⟩ := shown.descend
  exact ⟨p, node, way, contents, found, down, rfl⟩

/-- A file can be read. -/
theorem exists_readFile (h : t.isFile p) : ∃ contents, t.readFile p = .ok contents := by
  obtain ⟨contents, found⟩ := isFile_iff.1 h
  exact ⟨contents, readFile_eq_ok_iff.2 found⟩

theorem holdsFile_of_isFile (h : t.isFile p) : t.HoldsFile p := by
  obtain ⟨contents, found⟩ := isFile_iff.1 h
  exact ⟨p, _, [], contents, found, by simp, rfl⟩

/-- The path of a file in a tree of proper names leads to it, unless it is too long to be
followed. -/
theorem HoldsFile.isFile (h : t.HoldsFile q) (proper : t.Proper)
    (short : q.octets.length ≤ longestPath) : t.isFile q := by
  obtain ⟨p, node, way, contents, found, down, rfl⟩ := h
  have leads := node_below proper found down (by simp) short
  simp [FileTree.isFile, leads]

/-- A path that leads somewhere is short enough. -/
theorem fits_nil {node : Node} (found : t.node p = .ok node) : fits p [] := by
  obtain ⟨start, there, begun, -, -⟩ := node_eq_ok_iff.1 found
  exact decide_eq_true (start_eq_ok_iff.1 begun).2.2.1

theorem mem_filesBelow_iff {node : Node} :
    q ∈ filesBelow p node ↔
      ∃ way, node.Shows way ∧ fits p way.dropLast ∧ q = way.foldl Path.child p := by
  simp [filesBelow, mem_waysToFiles_iff, eq_comm (a := q), and_assoc]

/-- A walk that begins lists the files from the node at its path. -/
theorem value_findFiles (t : FileTree) (p : Path) (accept : Path → Bool) :
    (t.findFiles p accept).value = [] ∨
    ∃ node, t.node p = .ok node ∧
      (t.findFiles p accept).value = (filesBelow p node).filter accept := by
  have same := t.node_eq_ownNode_or p
  unfold findFiles
  cases own : t.ownNode p with
  | error e => exact .inl rfl
  | ok node =>
    rw [own] at same
    cases node with
    | file contents => exact .inr ⟨_, same.resolve_right (by simp), rfl⟩
    | directory entries => exact .inr ⟨_, same.resolve_right (by simp), rfl⟩
    | link target =>
      cases found : t.node p with
      | error e => exact .inl rfl
      | ok node =>
        cases node with
        | directory entries => exact .inr ⟨_, rfl, rfl⟩
        | file contents => exact .inl rfl
        | link target => exact .inl rfl

/-- What is found below a directory, also through a link to it. -/
theorem findFiles_directory {entries : List (Name × Node)}
    (found : t.node p = .ok (.directory entries)) :
    (t.findFiles p accept).value = (filesBelow p (.directory entries)).filter accept := by
  rcases t.node_eq_ownNode_or p with same | ⟨target, own⟩
  · rw [same] at found
    simp [findFiles, found, filesBelow]
  · simp [findFiles, found, own, filesBelow]

/-- What is found is what a walk sees. -/
theorem mem_findFiles (h : q ∈ (t.findFiles p accept).value) : t.Sees p q ∧ accept q := by
  rcases t.value_findFiles p accept with empty | ⟨node, found, listed⟩
  · rw [empty] at h
    cases h
  · rw [listed, List.mem_filter] at h
    obtain ⟨way, shown, short, same⟩ := mem_filesBelow_iff.1 h.1
    exact ⟨⟨node, way, found, shown, short, same⟩, h.2⟩

/-- What is found below a directory is what a walk sees there and accepts. -/
theorem mem_findFiles_iff (accept : Path → Bool) (directory : t.isDirectory p) :
    q ∈ (t.findFiles p accept).value ↔ t.Sees p q ∧ accept q := by
  refine ⟨mem_findFiles, ?_⟩
  rintro ⟨⟨node, way, found, shown, short, rfl⟩, accepted⟩
  simp only [FileTree.isDirectory, found] at directory
  cases node with
  | file contents => cases directory
  | link target => cases directory
  | directory entries =>
    rw [findFiles_directory found, List.mem_filter]
    exact ⟨mem_filesBelow_iff.2 ⟨way, shown, short, rfl⟩, accepted⟩

end FileTree
end DataShelf.Files
