import DataShelf.Proofs.WalkOrder
import Mathlib.Data.List.Nodup

/-!
# Trees with the same outline

Two trees have the same outline if every way down leads to nodes of one kind in both, or nowhere in
both; what is in the files of some places may differ (`FileTree.SameBut`). Paths are followed alike
in such trees, since no move looks into a file (`SameBut.locate`), and walks come to the same files
(`SameBut.reaches_iff`). A tree whose directories list their entries in another order is one with
nothing changed (`sameBut_of_reordered`).
-/

namespace DataShelf.Files
set_option autoImplicit false

namespace Node

/-- The kind of a node, and the target of a link: what is in files and directories is left out. -/
def outline : Node → Node
  | .file _ => .file []
  | .directory _ => .directory []
  | .link target => .link target

@[simp] theorem isFile_outline (node : Node) : node.outline.isFile = node.isFile := by
  cases node <;> rfl

@[simp] theorem isDirectory_outline (node : Node) : node.outline.isDirectory = node.isDirectory := by
  cases node <;> rfl

/-- The nodes below a directory are its entries. -/
theorem descend_concat {node : Node} {place : List Name} {entries : List (Name × Node)}
    (here : node.descend place = some (.directory entries)) (n : Name) :
    node.descend (place ++ [n]) = named? n entries := by
  rw [descend_append, here, Option.bind_some, descend_cons]
  cases named? n entries <;> simp

/-- An entry is found under its name, or another one is. -/
theorem exists_named?_of_mem {entries : List (Name × Node)} {e : Name × Node}
    (member : e ∈ entries) : ∃ node, named? e.1 entries = some node := by
  have known : (entries.find? fun o => o.1 == e.1).isSome :=
    List.find?_isSome.2 ⟨e, member, by simp⟩
  obtain ⟨⟨n, node⟩, found⟩ := Option.isSome_iff_exists.1 known
  obtain rfl : n = e.1 := by simpa using List.find?_some found
  exact ⟨node, named?_eq_some_iff.2 found⟩

end Node

namespace FileTree

variable {t t' : FileTree} {Changed : List Name → Prop}

/-- Trees with the same outline, whose files hold the same at all places but the changed ones. -/
structure SameBut (Changed : List Name → Prop) (t t' : FileTree) : Prop where
  work : t'.work = t.work
  outline : ∀ place, (t'.root.descend place).map Node.outline =
    (t.root.descend place).map Node.outline
  contents : ∀ place contents, ¬Changed place →
    t.root.descend place = some (.file contents) → t'.root.descend place = some (.file contents)

namespace SameBut

/-- A change can be undone. -/
theorem symm (h : SameBut Changed t t') : SameBut Changed t' t where
  work := h.work.symm
  outline := fun place => (h.outline place).symm
  contents := by
    intro place contents unchanged here
    have outline := h.outline place
    rw [here] at outline
    cases there : t.root.descend place with
    | none => simp [there] at outline
    | some node =>
      cases node with
      | file contents' => rw [← here, h.contents place contents' unchanged there]
      | directory entries => simp [there, Node.outline] at outline
      | link target => simp [there, Node.outline] at outline

/-- Where one tree has a node, the other has one with the same outline. -/
theorem exists_node (h : SameBut Changed t t') {place : List Name} {node : Node}
    (here : t.root.descend place = some node) :
    ∃ node', t'.root.descend place = some node' ∧ node'.outline = node.outline := by
  have outline := h.outline place
  rw [here, Option.map_some] at outline
  exact Option.map_eq_some_iff.1 outline

/-- A directory is one in both trees, with the same outlines in it. -/
theorem exists_directory (h : SameBut Changed t t') {place : List Name}
    {entries : List (Name × Node)} (here : t.root.descend place = some (.directory entries)) :
    ∃ entries', t'.root.descend place = some (.directory entries') ∧
      ∀ n, (Node.named? n entries').map Node.outline = (Node.named? n entries).map Node.outline := by
  obtain ⟨node', there, outline⟩ := h.exists_node here
  cases node' with
  | file contents => simp [Node.outline] at outline
  | link target => simp [Node.outline] at outline
  | directory entries' =>
    refine ⟨entries', there, fun n => ?_⟩
    rw [← Node.descend_concat here, ← Node.descend_concat there, h.outline]

/-- The names in both trees are such that a directory can hold them. -/
theorem proper (h : SameBut Changed t t') (proper : t.Proper) : t'.Proper := by
  intro place entries there e member
  obtain ⟨entries', here, same⟩ := h.symm.exists_directory there
  obtain ⟨node, found⟩ := Node.exists_named?_of_mem member
  have outline := same e.1
  rw [found, Option.map_some] at outline
  obtain ⟨node', found', -⟩ := Option.map_eq_some_iff.1 outline
  exact proper place entries' here (e.1, node') (Node.mem_of_named? found')

/-! ### Following paths -/

/-- A part of a path leads on alike in both trees. -/
theorem move (h : SameBut Changed t t') (place : List Name) (part : Name) :
    t'.move place part = t.move place part := by
  have outline := h.outline place
  unfold FileTree.move
  cases here : t.root.descend place with
  | none => simp_all
  | some node =>
    cases node with
    | directory entries =>
      obtain ⟨entries', there, same⟩ := h.exists_directory here
      have found := same part
      rw [there]
      -- A move looks at an entry for its kind and, if it is a link, its target.
      cases entry : Node.named? part entries with
      | none =>
        have missing : Node.named? part entries' = none := by simpa [entry] using found
        simp [missing, entry]
      | some next =>
        rw [entry, Option.map_some] at found
        obtain ⟨next', entry', alike⟩ := Option.map_eq_some_iff.1 found
        cases next <;> cases next' <;> simp_all [Node.outline]
    | file contents =>
      obtain ⟨node', there, alike⟩ := h.exists_node here
      cases node' <;> simp_all [Node.outline]
    | link target =>
      obtain ⟨node', there, alike⟩ := h.exists_node here
      cases node' <;> simp_all [Node.outline]

/-- A path is followed alike in both trees. -/
theorem follow (h : SameBut Changed t t') (last : Bool) (links : Nat) (place parts : List Name) :
    t'.follow last links place parts = t.follow last links place parts := by
  induction links, place, parts using follow_induction t with
  | nil links place => simp
  | cons links place part rest along behind =>
    rw [follow_cons, follow_cons, h.move]
    cases moved : t.move place part with
    | step next => exact along next
    | fail e => rfl
    | link target =>
      cases links with
      | zero => rfl
      | succ left => simp only [behind left target rfl moved]

/-- Paths lead to the same places. -/
theorem locate (h : SameBut Changed t t') (last : Bool) (p : Path) :
    t'.locate last p = t.locate last p := by
  simp only [FileTree.locate, FileTree.start, h.work, h.follow]

/-- A path leads nowhere in both trees, or to nodes with the same outline at one place. -/
theorem node_cases (h : SameBut Changed t t') (p : Path) :
    (∃ e, t.node p = .error e ∧ t'.node p = .error e) ∨
    ∃ place node node', t.locate true p = .ok place ∧ t.root.descend place = some node ∧
      t'.root.descend place = some node' ∧ t.node p = .ok node ∧ t'.node p = .ok node' ∧
      node'.outline = node.outline := by
  cases located : t.locate true p with
  | error e => exact .inl ⟨e, by simp [node, h.locate, located, bind, Except.bind]⟩
  | ok place =>
    cases here : t.root.descend place with
    | none =>
      have there : t'.root.descend place = none := by simpa [here] using h.outline place
      exact .inl ⟨.notFound, by simp [node, h.locate, located, here, there, bind, Except.bind]⟩
    | some found =>
      obtain ⟨found', there, outline⟩ := h.exists_node here
      refine .inr ⟨place, found, found', rfl, here, there, ?_, ?_, outline⟩
      · simp [node, located, here, bind, Except.bind]
      · simp [node, h.locate, located, there, bind, Except.bind]

theorem isFile (h : SameBut Changed t t') (p : Path) : t'.isFile p = t.isFile p := by
  rcases h.node_cases p with ⟨e, found, found'⟩ | ⟨_, node, node', _, _, _, found, found', outline⟩
  · simp [FileTree.isFile, found, found']
  · cases node <;> cases node' <;> simp_all [FileTree.isFile, Node.outline]

theorem isDirectory (h : SameBut Changed t t') (p : Path) : t'.isDirectory p = t.isDirectory p := by
  rcases h.node_cases p with ⟨e, found, found'⟩ | ⟨_, node, node', _, _, _, found, found', outline⟩
  · simp [FileTree.isDirectory, found, found']
  · cases node <;> cases node' <;> simp_all [FileTree.isDirectory, Node.outline]

/-- A path that does not lead to a changed place reads the same. -/
theorem readFile (h : SameBut Changed t t') {p : Path}
    (unchanged : ∀ place, t.locate true p = .ok place → ¬Changed place) :
    t'.readFile p = t.readFile p := by
  rcases h.node_cases p with
    ⟨e, found, found'⟩ | ⟨place, node, node', located, here, there, found, found', outline⟩
  · simp [FileTree.readFile, found, found']
  · cases node with
    | file contents =>
      rw [h.contents place contents (unchanged place located) here] at there
      obtain rfl := Option.some.inj there
      rw [FileTree.readFile, FileTree.readFile, found, found']
    | directory entries => cases node' <;> simp_all [FileTree.readFile, Node.outline]
    | link target => cases node' <;> simp_all [FileTree.readFile, Node.outline]

theorem readText (h : SameBut Changed t t') {p : Path}
    (unchanged : ∀ place, t.locate true p = .ok place → ¬Changed place) :
    t'.readText p = t.readText p := by
  rw [FileTree.readText, FileTree.readText, h.readFile unchanged]

/-! ### Walks -/

/-- A way that is shown in one tree is shown in the other. -/
theorem shows (h : SameBut Changed t t') {place way : List Name} {node node' : Node}
    (here : t.root.descend place = some node) (there : t'.root.descend place = some node')
    (shown : node.Shows way) : node'.Shows way := by
  induction shown generalizing place node' with
  | file contents =>
    obtain ⟨_, there', outline⟩ := h.exists_node here
    obtain rfl := Option.some.inj (there.symm.trans there')
    cases node' with
    | file contents' => exact .file contents'
    | directory entries => simp [Node.outline] at outline
    | link target => simp [Node.outline] at outline
  | @entry entries n next way found enters _ ih =>
    obtain ⟨entries', there', same⟩ := h.exists_directory here
    obtain rfl := Option.some.inj (there.symm.trans there')
    have outline := same n
    rw [found, Option.map_some] at outline
    obtain ⟨next', found', alike⟩ := Option.map_eq_some_iff.1 outline
    refine .entry found' ?_ (ih (Node.descend_entry here found) (Node.descend_entry there found'))
    rw [Node.isHiddenDirectory, ← Node.isDirectory_outline, alike, Node.isDirectory_outline]
    exact enters

/-- What a walk sees in one tree it sees in the other. -/
theorem sees (h : SameBut Changed t t') {p q : Path} (seen : t.Sees p q) : t'.Sees p q := by
  obtain ⟨node, way, found, shown, short, rfl⟩ := seen
  rcases h.node_cases p with ⟨e, failed, -⟩ | ⟨_, same, node', -, here, there, found', leads, -⟩
  · simp [found] at failed
  · rw [found, Except.ok.injEq] at found'
    subst found'
    exact ⟨node', way, leads, h.shows here there shown, short, rfl⟩

theorem sees_iff (h : SameBut Changed t t') {p q : Path} : t'.Sees p q ↔ t.Sees p q :=
  ⟨h.symm.sees, h.sees⟩

theorem ownFile (h : SameBut Changed t t') {p : Path}
    (own : ∃ contents, t.ownNode p = .ok (.file contents)) :
    ∃ contents, t'.ownNode p = .ok (.file contents) := by
  obtain ⟨contents, own⟩ := own
  cases located : t.locate false p with
  | error e => simp [ownNode, located, bind, Except.bind] at own
  | ok place =>
    cases here : t.root.descend place with
    | none => simp [ownNode, located, here, bind, Except.bind] at own
    | some node =>
      obtain rfl : node = .file contents := by
        simpa [ownNode, located, here, bind, Except.bind] using own
      obtain ⟨node', there, outline⟩ := h.exists_node here
      cases node' with
      | file contents' =>
        exact ⟨contents', by simp [ownNode, h.locate, located, there, bind, Except.bind]⟩
      | directory entries => simp [Node.outline] at outline
      | link target => simp [Node.outline] at outline

/-- Walks come to the same files. -/
theorem reaches_iff (h : SameBut Changed t t') {p q : Path} : t'.Reaches p q ↔ t.Reaches p q := by
  have own : (∃ contents, t'.ownNode p = .ok (.file contents)) ↔
      ∃ contents, t.ownNode p = .ok (.file contents) := ⟨h.symm.ownFile, h.ownFile⟩
  rw [Reaches, Reaches, h.isDirectory, h.sees_iff, own]

end SameBut
end FileTree

/-! ### Entries in another order -/

namespace Node

mutual

/-- The same node with the entries of its directories in another order. In a directory each name
stands once. -/
inductive Reordered : Node → Node → Prop
  | file (contents : List UInt8) : Reordered (.file contents) (.file contents)
  | link (target : Path) : Reordered (.link target) (.link target)
  | directory {entries inside entries' : List (Name × Node)} (once : (entries.map (·.1)).Nodup)
      (below : EntriesReordered entries inside) (order : inside.Perm entries') :
      Reordered (.directory entries) (.directory entries')

/-- The same entries in the same order, each of them reordered inside. -/
inductive EntriesReordered : List (Name × Node) → List (Name × Node) → Prop
  | nil : EntriesReordered [] []
  | cons {n : Name} {node node' : Node} {rest rest' : List (Name × Node)}
      (here : Reordered node node') (below : EntriesReordered rest rest') :
      EntriesReordered ((n, node) :: rest) ((n, node') :: rest')

end

theorem Reordered.outline {node node' : Node} (h : node.Reordered node') :
    node'.outline = node.outline := by
  cases h <;> rfl

/-- Reordered entries have the same names in the same order. -/
theorem names_of_entriesReordered {entries inside : List (Name × Node)}
    (h : EntriesReordered entries inside) : inside.map (·.1) = entries.map (·.1) := by
  induction entries generalizing inside with
  | nil =>
    cases h
    rfl
  | cons e entries ih =>
    cases h with
    | cons here below => rw [List.map_cons, List.map_cons, ih below]

/-- Reordered entries are found under the same names. -/
theorem named?_of_entriesReordered {entries inside : List (Name × Node)}
    (h : EntriesReordered entries inside) (n : Name) :
    Option.Rel Reordered (named? n entries) (named? n inside) := by
  induction entries generalizing inside with
  | nil =>
    cases h
    exact .none
  | cons e entries ih =>
    cases h with
    | @cons m node node' _ rest' here below =>
      by_cases same : m = n
      · simpa [named?, same] using here
      · simpa [named?, same] using ih below

/-- Where each name stands once, an entry is found in any order. -/
theorem named?_of_perm {entries entries' : List (Name × Node)} (order : entries.Perm entries')
    (once : (entries.map (·.1)).Nodup) (n : Name) : named? n entries = named? n entries' := by
  have found_iff {l : List (Name × Node)} (once : (l.map (·.1)).Nodup) (node : Node) :
      named? n l = some node ↔ (n, node) ∈ l := by
    refine ⟨mem_of_named?, fun member => ?_⟩
    obtain ⟨node', found⟩ := exists_named?_of_mem member
    have same := List.inj_on_of_nodup_map once member (mem_of_named? found) rfl
    rw [found, (Prod.mk.inj same).2]
  have once' : (entries'.map (·.1)).Nodup := (order.map _).nodup_iff.1 once
  refine Option.ext fun node => ?_
  rw [found_iff once, found_iff once', order.mem_iff]

/-- A way down leads to the same in another order. -/
theorem Reordered.descend {node node' : Node} (h : node.Reordered node') (place : List Name) :
    Option.Rel Reordered (node.descend place) (node'.descend place) := by
  induction place generalizing node node' with
  | nil => simpa using h
  | cons n place ih =>
    cases h with
    | file contents => exact .none
    | link target => exact .none
    | @directory entries inside entries' once below order =>
      have found := named?_of_entriesReordered below n
      rw [named?_of_perm order (names_of_entriesReordered below ▸ once)] at found
      rw [descend_cons, descend_cons]
      generalize named? n entries = here at found
      generalize named? n entries' = there at found
      cases found with
      | none => exact .none
      | some alike => exact ih alike

end Node

/-- In another order nothing has changed. -/
theorem FileTree.sameBut_of_reordered {t t' : FileTree} (work : t'.work = t.work)
    (order : t.root.Reordered t'.root) : SameBut (fun _ => False) t t' where
  work := work
  outline := by
    intro place
    have alike := order.descend place
    generalize t.root.descend place = here at alike
    generalize t'.root.descend place = there at alike
    cases alike with
    | none => rfl
    | some alike => exact congrArg some alike.outline
  contents := by
    intro place contents _ here
    have alike := order.descend place
    rw [here] at alike
    generalize t'.root.descend place = there at alike
    cases alike with
    | some alike =>
      cases alike
      rfl

end DataShelf.Files
