import DataShelf.Proofs.Removal

/-!
# Trees that grow

What stands at a place of a tree is a file, a link or a directory, its entries left out
(`FileTree.standing`). To put a file or an empty directory into a directory changes what stands there
and nothing else (`standing_alter`), as long as no directory goes. In a tree that has only grown, in
which all stands that stood before and is of the same kind (`Grows`), paths lead to the same places
as before (`Grows.locate`).
-/

namespace DataShelf.Files
set_option autoImplicit false

namespace Node

@[simp] theorem outline_shell (node : Node) : node.shell.outline = node.outline := by
  cases node <;> rfl

/-- There is nothing below an empty directory, nor below a file or a link. -/
theorem descend_of_shell_eq {node : Node} (flat : node.shell = node) (n : Name) (way : List Name) :
    node.descend (n :: way) = none := by
  cases node with
  | file contents => simp [descend]
  | link target => simp [descend]
  | directory entries =>
    obtain rfl : [] = entries := Node.directory.inj flat
    rw [descend_cons, named?, Option.bind_none]

end Node

namespace FileTree

variable {t t' : FileTree} {place : List Name} {n : Name} {entries : List (Name × Node)}
  {node : Node}

/-- What stands at a place: a file, a link, or a directory without its entries. -/
def standing (t : FileTree) (place : List Name) : Option Node :=
  (t.root.descend place).map Node.shell

/-- A directory stands where the tree has one, whatever is in it. -/
theorem standing_directory_iff :
    t.standing place = some (.directory []) ↔
      ∃ entries, t.root.descend place = some (.directory entries) := by
  rw [standing, Option.map_eq_some_iff]
  constructor
  · rintro ⟨node, here, same⟩
    cases node with
    | directory entries => exact ⟨entries, here⟩
    | file contents => cases same
    | link target => cases same
  · rintro ⟨entries, here⟩
    exact ⟨_, here, rfl⟩

/-- A file stands where the tree has it. -/
theorem standing_file_iff {contents : List UInt8} :
    t.standing place = some (.file contents) ↔ t.root.descend place = some (.file contents) := by
  rw [standing, Option.map_eq_some_iff]
  constructor
  · rintro ⟨node, here, same⟩
    cases node with
    | file held =>
      obtain rfl : held = contents := Node.file.inj same
      exact here
    | directory entries => cases same
    | link target => cases same
  · intro here
    exact ⟨_, here, rfl⟩

theorem standing_concat (here : t.root.descend place = some (.directory entries)) (n : Name) :
    t.standing (place ++ [n]) = (Node.named? n entries).map Node.shell := by
  rw [standing, Node.descend_concat here]

/-- What stands on the way to something is a directory. -/
theorem directory_of_standing {way : List Name} (more : way ≠ [])
    (there : t.standing (place ++ way) = some node) : t.standing place = some (.directory []) := by
  obtain ⟨n, way, rfl⟩ := List.exists_cons_of_ne_nil more
  obtain ⟨below, down, -⟩ := Option.map_eq_some_iff.1 there
  rw [Node.descend_append] at down
  obtain ⟨here, above, onwards⟩ := Option.bind_eq_some_iff.1 down
  obtain ⟨entries, _, rfl, -, -⟩ := Node.descend_cons_eq_some onwards
  exact standing_directory_iff.2 ⟨entries, above⟩

/-- A directory in which nothing stands has no entries. -/
theorem descend_of_nothing_below (here : t.standing place = some (.directory []))
    (nothing : ∀ n, t.standing (place ++ [n]) = none) :
    t.root.descend place = some (.directory []) := by
  obtain ⟨entries, there⟩ := standing_directory_iff.1 here
  cases entries with
  | nil => exact there
  | cons e rest =>
    have absent := nothing e.1
    rw [standing_concat there, Node.named?, if_pos rfl] at absent
    cases absent

/-- All names that stand in directories are such that a directory can hold. -/
theorem proper_iff_standing :
    t.Proper ↔ ∀ place n node, t.standing (place ++ [n]) = some node → n.Proper := by
  constructor
  · intro proper place n node there
    obtain ⟨entries, here⟩ := standing_directory_iff.1 (directory_of_standing (by simp) there)
    rw [standing_concat here] at there
    obtain ⟨next, found, -⟩ := Option.map_eq_some_iff.1 there
    exact proper place entries here _ (Node.mem_of_named? found)
  · intro names place entries here e member
    obtain ⟨next, found⟩ := Node.exists_named?_of_mem member
    exact names place e.1 next.shell (by rw [standing_concat here, found, Option.map_some])

/-! ### One more entry -/

/-- To put an entry with nothing below it into a directory, where no directory has its name, changes
what stands at this place and nothing else. -/
theorem standing_alter (here : t.root.descend place = some (.directory entries))
    (free : t.standing (place ++ [n]) ≠ some (.directory [])) (flat : node.shell = node) :
    (t.alter place (Node.putEntry n node)).standing =
      Function.update t.standing (place ++ [n]) (some node) := by
  funext way
  show ((t.root.alter _ place).descend way).map Node.shell = _
  by_cases through : place <+: way
  · obtain ⟨rest, rfl⟩ := through
    rw [Node.descend_alter_below here]
    cases rest with
    | nil =>
      rw [List.append_nil, Function.update_of_ne (by simp), standing, here, Node.descend_nil]
      rfl
    | cons m rest =>
      rw [Node.descend_cons, Node.named?_putEntry]
      by_cases same : m = n
      · subst same
        rw [if_pos rfl, Option.bind_some]
        cases rest with
        | nil => rw [Function.update_self, Node.descend_nil, Option.map_some, flat]
        | cons k rest =>
          rw [Function.update_of_ne (by simp), Node.descend_of_shell_eq flat]
          -- What stood there before would have had a directory above it.
          cases there : t.standing (place ++ m :: k :: rest) with
          | none => rfl
          | some below =>
            rw [List.append_cons] at there
            exact absurd (directory_of_standing (List.cons_ne_nil k rest) there) free
      · rw [if_neg same, Function.update_of_ne (by simp [same]), standing, Node.descend_append, here,
          Option.bind_some, Node.descend_cons]
  · rw [Node.shell_descend_alter here through]
    refine (Function.update_of_ne ?_ _ t.standing).symm
    rintro rfl
    exact through (List.prefix_append place [n])

/-! ### Growth -/

/-- All that stands in the first tree stands in the second, a directory as a directory, a file as a
file and a link as the same link. -/
structure Grows (t t' : FileTree) : Prop where
  work : t'.work = t.work
  kept : ∀ place node, t.standing place = some node →
    ∃ node', t'.standing place = some node' ∧ node'.outline = node.outline

namespace Grows

/-- A directory stays one. -/
theorem directory (h : t.Grows t') (there : t.standing place = some (.directory [])) :
    t'.standing place = some (.directory []) := by
  obtain ⟨node', there', same⟩ := h.kept place _ there
  obtain ⟨below, -, shell⟩ := Option.map_eq_some_iff.1 there'
  cases below with
  | directory entries => rw [there', ← shell, Node.shell]
  | file contents =>
    rw [← shell] at same
    cases same
  | link target =>
    rw [← shell] at same
    cases same

/-- An entry of a directory has one of the same kind in the same place. -/
theorem named? (h : t.Grows t') {entries' : List (Name × Node)}
    (here : t.root.descend place = some (.directory entries))
    (here' : t'.root.descend place = some (.directory entries')) {next : Node}
    (found : Node.named? n entries = some next) :
    ∃ next', Node.named? n entries' = some next' ∧ next'.outline = next.outline := by
  have there : t.standing (place ++ [n]) = some next.shell := by
    rw [standing_concat here, found, Option.map_some]
  obtain ⟨node', there', same⟩ := h.kept _ _ there
  rw [standing_concat here'] at there'
  obtain ⟨next', found', rfl⟩ := Option.map_eq_some_iff.1 there'
  exact ⟨next', found', by simpa using same⟩

/-- A move that does not fail is the same. -/
theorem move (h : t.Grows t') {part : Name} (moves : ∀ e, t.move place part ≠ .fail e) :
    t'.move place part = t.move place part := by
  unfold FileTree.move at moves ⊢
  cases here : t.root.descend place with
  | none => simp [here] at moves
  | some node =>
    cases node with
    | file contents => simp [here] at moves
    | link target => simp [here] at moves
    | directory entries =>
      obtain ⟨entries', here'⟩ := standing_directory_iff.1
        (h.directory (standing_directory_iff.2 ⟨entries, here⟩))
      rw [here']
      simp only [here] at moves ⊢
      cases found : Node.named? part entries with
      | none =>
        -- To go to an entry that is missing would fail, so the move is one that looks at none.
        by_cases idle : part.isIdle
        · rw [if_pos idle, if_pos idle]
        · by_cases up : part == Name.dotDot
          · rw [if_neg idle, if_neg idle, if_pos up, if_pos up]
          · by_cases long : longestName < part.octets.length <;>
              simp [idle, up, long, found] at moves
      | some next =>
        obtain ⟨next', found', same⟩ := h.named? here here' found
        simp only [found']
        cases next <;> cases next' <;> simp_all [Node.outline]

/-- A path that is followed to a place is followed to the same place. -/
theorem follow (h : t.Grows t') {last : Bool} {links : Nat} {parts there : List Name}
    (followed : t.follow last links place parts = .ok there) :
    t'.follow last links place parts = .ok there := by
  induction links, place, parts using follow_induction t with
  | nil links place => simpa using followed
  | cons links place part rest along behind =>
    rw [follow_cons] at followed ⊢
    cases moved : t.move place part with
    | fail e => simp [moved] at followed
    | step next =>
      have same : t'.move place part = .step next := moved ▸ h.move (by simp [moved])
      rw [moved] at followed
      rw [same]
      exact along next followed
    | link target =>
      have same : t'.move place part = .link target := moved ▸ h.move (by simp [moved])
      rw [moved] at followed
      rw [same]
      dsimp only at followed ⊢
      split at followed
      · next ends => rw [if_pos ends, followed]
      · next ends =>
        rw [if_neg ends]
        cases links with
        | zero => cases followed
        | succ left => exact behind left target rfl moved _ followed

theorem start (h : t.Grows t') (p : Path) : t'.start p = t.start p := by
  rw [FileTree.start, FileTree.start, h.work]

theorem locate (h : t.Grows t') {last : Bool} {p : Path} {there : List Name}
    (located : t.locate last p = .ok there) : t'.locate last p = .ok there := by
  obtain ⟨start, begun, followed⟩ := locate_eq_ok_iff.1 located
  exact locate_eq_ok_iff.2 ⟨start, (h.start p).trans begun, h.follow followed⟩

end Grows

end FileTree
end DataShelf.Files
