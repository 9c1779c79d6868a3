import DataShelf.Proofs.DirectoryTables

/-!
# Trees without an entry

`FileTree.without` takes the entry of a name out of a directory. All that does not lie at or below
that entry stays (`agrees_without`). Where the entry is no directory and no link to one, no way leads
on from it, so a path that does not end there leads to the same in both trees, and one that does
leads to no directory in either (`node_cases`). A walk then comes to the same files, those of the
name apart (`sees_iff`).
-/

namespace DataShelf.Files
set_option autoImplicit false

namespace Node

/-- The node without what is in it, if it is a directory. -/
def shell : Node → Node
  | .directory _ => .directory []
  | node => node

@[simp] theorem isDirectory_shell (node : Node) : node.shell.isDirectory = node.isDirectory := by
  cases node <;> rfl

variable {entries : List (Name × Node)} {m n : Name} {node : Node}

theorem named?_dropEntry_self (n : Name) (entries : List (Name × Node)) :
    named? n (dropEntry n entries) = none := by
  induction entries with
  | nil => rfl
  | cons e rest ih =>
    by_cases same : e.1 = n
    · simpa [dropEntry, same] using ih
    · simpa [dropEntry, named?, same] using ih

theorem named?_dropEntry_other (other : m ≠ n) :
    named? m (dropEntry n entries) = named? m entries := by
  induction entries with
  | nil => rfl
  | cons e rest ih =>
    by_cases gone : e.1 = n
    · have passed : e.1 ≠ m := fun same => other (same.symm.trans gone)
      simpa [dropEntry, named?, gone, gone ▸ passed] using ih
    · by_cases same : e.1 = m
      · simp [dropEntry, named?, same, other]
      · simpa [dropEntry, named?, gone, same] using ih

/-- An entry that is put in is found under its name, and every other name is found as before. -/
theorem named?_putEntry (m n : Name) (node : Node) (entries : List (Name × Node)) :
    named? m (putEntry n node entries) = if m = n then some node else named? m entries := by
  induction entries with
  | nil => simp [putEntry, named?, eq_comm]
  | cons e rest ih =>
    by_cases here : e.1 = n
    · by_cases same : m = n
      · simp [putEntry, named?, here, same]
      · simp [putEntry, named?, here, same, Ne.symm same]
    · by_cases same : e.1 = m
      · have other : m ≠ n := fun h => here (same.trans h)
        simp [putEntry, named?, same, other]
      · simp [putEntry, named?, here, same, ih]

/-- Below the place of the change stands what the change left there. -/
theorem descend_alter_below {change : List (Name × Node) → List (Name × Node)} {place : List Name}
    (here : node.descend place = some (.directory entries)) (way : List Name) :
    (node.alter change place).descend (place ++ way) =
      (directory (change entries)).descend way := by
  induction place generalizing node with
  | nil =>
    obtain rfl : node = .directory entries := by simpa using here
    rw [alter, List.nil_append]
  | cons m place ih =>
    obtain ⟨outer, next, rfl, found, rest⟩ := descend_cons_eq_some here
    rw [alter, found]
    simp only [List.cons_append, descend_cons, named?_putEntry, if_true, Option.bind_some]
    exact ih rest

/-- Ways that do not go through the place of the change lead to the same as before. -/
theorem shell_descend_alter {change : List (Name × Node) → List (Name × Node)}
    {place way : List Name} (here : node.descend place = some (.directory entries))
    (aside : ¬place <+: way) :
    ((node.alter change place).descend way).map shell = (node.descend way).map shell := by
  induction place generalizing node way with
  | nil => exact absurd List.nil_prefix aside
  | cons m place ih =>
    obtain ⟨outer, next, rfl, found, rest⟩ := descend_cons_eq_some here
    rw [alter, found]
    cases way with
    | nil => rfl
    | cons k way =>
      simp only [descend_cons, named?_putEntry]
      by_cases same : k = m
      · subst same
        rw [if_pos rfl, found]
        exact ih rest fun onwards => aside (List.cons_prefix_cons.2 ⟨rfl, onwards⟩)
      · rw [if_neg same]

end Node

namespace FileTree

/-- The tree without the entry of a name in the directory at a place. -/
def without (t : FileTree) (place : List Name) (n : Name) : FileTree :=
  t.alter place (Node.dropEntry n)

/-- A name in the directory at a place is that of a directory, or of a link to one. -/
def LeadsToDirectory (t : FileTree) (place : List Name) (n : Name) : Prop :=
  ∃ there entries, t.follow true linkLimit place [n] = .ok there ∧
    t.root.descend there = some (.directory entries)

/-- Two trees are the same but at and below a place. -/
structure AgreeOutside (spot : List Name) (t t' : FileTree) : Prop where
  work : t'.work = t.work
  shell : ∀ way, ¬spot <+: way →
    (t'.root.descend way).map Node.shell = (t.root.descend way).map Node.shell

variable {t t' : FileTree} {place : List Name} {n : Name} {p q : Path}

/-- What was taken out is gone with all below it, and all else stays. -/
theorem agrees_without {entries : List (Name × Node)}
    (here : t.root.descend place = some (.directory entries)) :
    AgreeOutside (place ++ [n]) t (t.without place n) ∧
      ∀ way, place ++ [n] <+: way → (t.without place n).root.descend way = none := by
  refine ⟨⟨rfl, fun way aside => ?_⟩, ?_⟩
  · by_cases through : place <+: way
    · obtain ⟨rest, rfl⟩ := through
      show (((t.root.alter _ place).descend _).map Node.shell) = _
      rw [Node.descend_alter_below here, Node.descend_append, here, Option.bind_some]
      cases rest with
      | nil => rfl
      | cons m rest =>
        have other : m ≠ n := by
          rintro rfl
          exact aside ⟨rest, by simp⟩
        rw [Node.descend_cons, Node.descend_cons, Node.named?_dropEntry_other other]
    · exact Node.shell_descend_alter here through
  · rintro way ⟨rest, rfl⟩
    show (t.root.alter _ place).descend _ = _
    rw [List.append_assoc, Node.descend_alter_below here, List.singleton_append,
      Node.descend_cons, Node.named?_dropEntry_self, Option.bind_none]

namespace AgreeOutside

variable {spot : List Name}

theorem symm (h : AgreeOutside spot t t') : AgreeOutside spot t' t :=
  ⟨h.work.symm, fun way aside => (h.shell way aside).symm⟩

theorem exists_node (h : AgreeOutside spot t t') (aside : ¬spot <+: place) {node : Node}
    (here : t.root.descend place = some node) :
    ∃ node', t'.root.descend place = some node' ∧ node'.shell = node.shell := by
  have same := h.shell place aside
  rw [here, Option.map_some] at same
  exact Option.map_eq_some_iff.1 same

theorem exists_directory (h : AgreeOutside spot t t') (aside : ¬spot <+: place)
    {entries : List (Name × Node)} (here : t.root.descend place = some (.directory entries)) :
    ∃ entries', t'.root.descend place = some (.directory entries') := by
  obtain ⟨node', there, same⟩ := h.exists_node aside here
  cases node' with
  | directory entries' => exact ⟨entries', there⟩
  | file contents => cases same
  | link target => cases same

/-- Moves that do not go to the place are the same. -/
theorem move (h : AgreeOutside spot t t') {part : Name} (aside : ¬spot <+: place)
    (beside : ¬spot <+: place ++ [part]) : t'.move place part = t.move place part := by
  unfold FileTree.move
  cases here : t.root.descend place with
  | none =>
    have there : t'.root.descend place = none := by simpa [here] using h.shell place aside
    rw [there]
  | some node =>
    obtain ⟨node', there, same⟩ := h.exists_node aside here
    rw [there]
    cases node with
    | directory entries =>
      cases node' with
      | directory entries' =>
        have next := h.shell _ beside
        rw [Node.descend_concat here, Node.descend_concat there] at next
        -- A move looks at an entry for its kind and, if it is a link, its target.
        cases entry : Node.named? part entries with
        | none =>
          have missing : Node.named? part entries' = none := by simpa [entry] using next
          simp [missing, entry]
        | some found =>
          rw [entry, Option.map_some] at next
          obtain ⟨found', entry', alike⟩ := Option.map_eq_some_iff.1 next
          cases found <;> cases found' <;> simp_all [Node.shell]
      | file contents => cases same
      | link target => cases same
    | file contents => cases node' <;> simp_all [Node.shell]
    | link target => cases node' <;> simp_all [Node.shell]

end AgreeOutside

/-- Where a move goes: nowhere, up or to an entry. -/
theorem place_of_move {place next : List Name} {part : Name} (h : t.move place part = .step next) :
    next = place ∨ next = place.dropLast ∨ next = place ++ [part] := by
  unfold move at h
  split at h
  · repeat' split at h
    all_goals cases h
    · exact .inl rfl
    · exact .inr (.inl rfl)
    · exact .inr (.inr rfl)
  · cases h

/-- More links are no hindrance. -/
theorem follow_mono {links : Nat} {parts there : List Name}
    (followed : t.follow true links place parts = .ok there) :
    ∀ links', links ≤ links' → t.follow true links' place parts = .ok there := by
  induction links, place, parts using follow_induction t with
  | nil links place =>
    intro links' _
    simpa using followed
  | cons links place part rest along behind =>
    intro links' more
    rw [follow_cons] at followed ⊢
    cases moved : t.move place part with
    | step next =>
      rw [moved] at followed
      exact along next followed links' more
    | fail e => simp [moved] at followed
    | link target =>
      rw [moved] at followed
      cases links with
      | zero => simp at followed
      | succ left =>
        obtain ⟨left', rfl⟩ : ∃ left', links' = left' + 1 := ⟨links' - 1, by omega⟩
        simp only [Bool.not_true, Bool.and_false, Bool.false_eq_true, if_false] at followed ⊢
        exact behind left target rfl moved _ followed left' (by omega)

/-- What a path leads to, from where it begins. -/
theorem node_of_start {start : List Name} (begun : t.start p = .ok start) :
    t.node p = (t.follow true linkLimit start p.segments).bind fun there =>
      match t.root.descend there with
      | some node => .ok node
      | none => .error .notFound := by
  rw [node, locate, begun]
  rfl

/-! ### Trees without a dead end -/

/-- In the second tree a name is missing from a directory. In the first it is neither that of a
directory nor that of a link to one, so no way leads on from it. -/
structure LacksDeadEnd (spot : List Name) (n : Name) (t t' : FileTree) : Prop where
  agrees : AgreeOutside (spot ++ [n]) t t'
  gone : ∀ way, spot ++ [n] <+: way → t'.root.descend way = none
  ends : ¬t.LeadsToDirectory spot n
  proper : n.Proper

namespace LacksDeadEnd

variable {spot : List Name} {links : Nat} {parts there : List Name}

theorem eq_of_prefix_concat (aside : ¬spot ++ [n] <+: place) {part : Name}
    (reached : spot ++ [n] <+: place ++ [part]) : place = spot ∧ part = n := by
  rcases List.prefix_concat_iff.1 reached with same | before
  · obtain ⟨rfl, last⟩ := List.append_inj' same rfl
    exact ⟨rfl, (List.singleton_inj.1 last).symm⟩
  · exact absurd before aside

/-- At and below the name there is no directory. -/
theorem not_directory (h : LacksDeadEnd spot n t t') (inside : spot ++ [n] <+: place)
    (entries : List (Name × Node)) : t.root.descend place ≠ some (.directory entries) := by
  intro here
  -- Whatever stands below the name, the name is then that of a directory.
  obtain ⟨outer, whole⟩ : ∃ outer, t.root.descend (spot ++ [n]) = some (.directory outer) := by
    obtain ⟨rest, rfl⟩ := inside
    rw [Node.descend_append] at here
    obtain ⟨node, at_, below⟩ := Option.bind_eq_some_iff.1 here
    cases rest with
    | nil => exact ⟨entries, by simpa [at_] using below⟩
    | cons m rest =>
      obtain ⟨outer, -, rfl, -, -⟩ := Node.descend_cons_eq_some below
      exact ⟨outer, at_⟩
  rw [Node.descend_append] at whole
  obtain ⟨node, at_, below⟩ := Option.bind_eq_some_iff.1 whole
  obtain ⟨outer', next, rfl, found, rest⟩ := Node.descend_cons_eq_some below
  obtain rfl : next = .directory outer := by simpa using rest
  have moved : t.move spot n = .step (spot ++ [n]) := by
    have short := Nat.not_lt.2 h.proper.short
    simp [FileTree.move, at_, h.proper.idle, h.proper.up, short, found]
  refine h.ends ⟨spot ++ [n], outer, ?_, Node.descend_entry at_ found⟩
  rw [follow_cons, moved]
  exact follow_nil

/-- A path that goes by way of the name leads to no directory. -/
theorem not_directory_of_follow (h : LacksDeadEnd spot n t t') (few : links ≤ linkLimit)
    {rest : List Name} (followed : t.follow true links spot (n :: rest) = .ok there)
    (entries : List (Name × Node)) : t.root.descend there ≠ some (.directory entries) := by
  intro here
  rcases t.follow_append links spot [n] with ⟨e, -, always⟩ | ⟨mid, left, reached, onwards⟩
  · have fails := always rest
    rw [List.singleton_append, followed] at fails
    cases fails
  · have flat (inner : List (Name × Node)) : t.root.descend mid ≠ some (.directory inner) :=
      fun leads => h.ends ⟨mid, inner, follow_mono reached linkLimit few, leads⟩
    have last := onwards rest
    rw [List.singleton_append, followed] at last
    cases rest with
    | nil =>
      rw [follow_nil] at last
      exact flat entries (Except.ok.inj last ▸ here)
    | cons part rest =>
      have stuck : t.move mid part = .fail .notDirectory := by
        unfold FileTree.move
        split
        · next inner leads => exact absurd leads (flat inner)
        · rfl
      rw [follow_cons, stuck] at last
      cases last

/-- In the tree without the name nothing is found by way of it. -/
theorem move_gone (h : LacksDeadEnd spot n t t') : ∃ e, t'.move spot n = .fail e := by
  unfold FileTree.move
  split
  · next entries here =>
    have missing : Node.named? n entries = none := by
      rw [← Node.descend_concat here]
      exact h.gone _ (List.prefix_refl _)
    rw [if_neg (by simp [h.proper.idle]), if_neg (by simpa using h.proper.up),
      if_neg (Nat.not_lt.2 h.proper.short), missing]
    exact ⟨_, rfl⟩
  · exact ⟨_, rfl⟩

/-- A path is followed alike in both trees, or it goes by way of the name: then it leads nowhere in
the second tree and to no directory in the first. -/
theorem follow_cases (h : LacksDeadEnd spot n t t') (parts : List Name) (few : links ≤ linkLimit)
    (aside : ¬spot ++ [n] <+: place) :
    (t'.follow true links place parts = t.follow true links place parts ∧
      ∀ there, t.follow true links place parts = .ok there → ¬spot ++ [n] <+: there) ∨
    ((∃ e, t'.follow true links place parts = .error e) ∧
      ∀ there entries, t.follow true links place parts = .ok there →
        t.root.descend there ≠ some (.directory entries)) := by
  induction links, place, parts using follow_induction t with
  | nil links place =>
    refine .inl ⟨by simp, fun there followed => ?_⟩
    obtain rfl : place = there := by simpa using followed
    exact aside
  | cons links place part rest along behind =>
    by_cases reached : spot ++ [n] <+: place ++ [part]
    · obtain ⟨rfl, rfl⟩ := eq_of_prefix_concat aside reached
      refine .inr ⟨?_, fun there entries followed => h.not_directory_of_follow few followed entries⟩
      obtain ⟨e, fails⟩ := h.move_gone
      exact ⟨e, by rw [follow_cons, fails]⟩
    · have same := h.agrees.move aside reached
      simp only [follow_cons, same]
      cases moved : t.move place part with
      | step next =>
        apply along next few
        rcases place_of_move moved with rfl | rfl | rfl
        · exact aside
        · exact fun inside => aside (inside.trans (List.dropLast_prefix _))
        · exact reached
      | fail e => exact .inl ⟨rfl, fun there followed => by cases followed⟩
      | link target =>
        cases links with
        | zero => exact .inl ⟨by simp, fun there followed => by simp at followed⟩
        | succ left =>
          simp only [Bool.not_true, Bool.and_false, Bool.false_eq_true, if_false]
          refine behind left target rfl moved _ (by omega) ?_
          split
          · simp
          · exact aside

/-- A path is followed in one of these two ways also if it begins at or below the name. -/
theorem follow_path_cases (h : LacksDeadEnd spot n t t') (filled : parts ≠ []) (place : List Name) :
    (t'.follow true linkLimit place parts = t.follow true linkLimit place parts ∧
      ∀ there, t.follow true linkLimit place parts = .ok there → ¬spot ++ [n] <+: there) ∨
    ((∃ e, t'.follow true linkLimit place parts = .error e) ∧
      ∀ there entries, t.follow true linkLimit place parts = .ok there →
        t.root.descend there ≠ some (.directory entries)) := by
  by_cases inside : spot ++ [n] <+: place
  · obtain ⟨part, rest, rfl⟩ := List.exists_cons_of_ne_nil filled
    have stuck : t.move place part = .fail .notDirectory := by
      unfold FileTree.move
      split
      · next entries here => exact absurd here (h.not_directory inside entries)
      · rfl
    have stuck' : t'.move place part = .fail .notDirectory := by
      rw [FileTree.move, h.gone _ inside]
    refine .inl ⟨?_, fun there followed => ?_⟩
    · rw [follow_cons, follow_cons, stuck, stuck']
    · rw [follow_cons, stuck] at followed
      cases followed
  · exact h.follow_cases parts (Nat.le_refl _) inside

/-- A path does not lead to a directory where no way from its start does. -/
theorem isDirectory_of_flat {start : List Name} (begun : t.start p = .ok start)
    (flat : ∀ there entries, t.follow true linkLimit start p.segments = .ok there →
      t.root.descend there ≠ some (.directory entries)) :
    t.isDirectory p = false := by
  unfold FileTree.isDirectory
  split
  · next entries found =>
    obtain ⟨start', there, begun', followed, here⟩ := node_eq_ok_iff.1 found
    obtain rfl := Except.ok.inj (begun.symm.trans begun')
    exact absurd here (flat there entries followed)
  · rfl

/-- A path leads to nodes that differ at most in what is in them, at one place of both trees. Else it
leads nowhere in the tree without the name, and to no directory in the other. -/
theorem node_cases (h : LacksDeadEnd spot n t t') (p : Path) :
    (∃ there node node', t.node p = .ok node ∧ t'.node p = .ok node' ∧
      t.root.descend there = some node ∧ t'.root.descend there = some node' ∧
      ¬spot ++ [n] <+: there ∧ node'.shell = node.shell) ∨
    ((∃ e, t'.node p = .error e) ∧ t.isDirectory p = false) := by
  have begins : t'.start p = t.start p := by rw [FileTree.start, FileTree.start, h.agrees.work]
  cases begun : t.start p with
  | error e =>
    have fails : t.node p = .error e := by
      simp [FileTree.node, FileTree.locate, begun, bind, Except.bind]
    have fails' : t'.node p = .error e := by
      simp [FileTree.node, FileTree.locate, begins, begun, bind, Except.bind]
    exact .inr ⟨⟨e, fails'⟩, by rw [FileTree.isDirectory, fails]⟩
  | ok start =>
    have filled : p.segments ≠ [] := by
      intro none
      refine (start_eq_ok_iff.1 begun).2.1 ?_
      rw [Path.octets, none]
      rfl
    have leads := node_of_start begun
    have leads' := node_of_start (begins.trans begun)
    rcases h.follow_path_cases filled start with ⟨same, avoids⟩ | ⟨⟨e, fails⟩, flat⟩
    · rw [same] at leads'
      cases way : t.follow true linkLimit start p.segments with
      | error e =>
        rw [way] at leads leads'
        exact .inr ⟨⟨e, leads'⟩, by rw [FileTree.isDirectory, leads]; rfl⟩
      | ok there =>
        rw [way] at leads leads'
        have aside := avoids there way
        cases here : t.root.descend there with
        | none =>
          have absent : t'.root.descend there = none := by
            simpa [here] using h.agrees.shell there aside
          refine .inr ⟨⟨.notFound, ?_⟩, ?_⟩
          · simp [leads', Except.bind, absent]
          · simp [FileTree.isDirectory, leads, Except.bind, here]
        | some node =>
          obtain ⟨node', here', shells⟩ := h.agrees.exists_node aside here
          refine .inl ⟨there, node, node', ?_, ?_, here, here', aside, shells⟩
          · simp [leads, Except.bind, here]
          · simp [leads', Except.bind, here']
    · rw [fails] at leads'
      exact .inr ⟨⟨e, leads'⟩, isDirectory_of_flat begun flat⟩

theorem isDirectory (h : LacksDeadEnd spot n t t') (p : Path) :
    t'.isDirectory p = t.isDirectory p := by
  rcases h.node_cases p with
    ⟨there, node, node', found, found', -, -, -, shells⟩ | ⟨⟨e, fails⟩, flat⟩
  · cases node <;> cases node' <;> simp_all [FileTree.isDirectory, Node.shell]
  · rw [flat, FileTree.isDirectory, fails]

/-- A path that leads somewhere in the tree without the name reads the same in both. -/
theorem readText (h : LacksDeadEnd spot n t t') {node : Node} (leads : t'.node p = .ok node) :
    t'.readText p = t.readText p := by
  rcases h.node_cases p with
    ⟨there, here, here', found, found', -, -, -, shells⟩ | ⟨⟨e, fails⟩, flat⟩
  · have same : t'.readFile p = t.readFile p := by
      rw [FileTree.readFile, FileTree.readFile, found, found']
      cases here <;> cases here' <;> simp_all [Node.shell]
    rw [FileTree.readText, FileTree.readText, same]
  · simp [fails] at leads

theorem tree_proper (h : LacksDeadEnd spot n t t') (proper : t.Proper) : t'.Proper := by
  intro place entries here e member
  obtain ⟨node, found⟩ := Node.exists_named?_of_mem member
  have below := Node.descend_entry here found
  have aside : ¬spot ++ [n] <+: place ++ [e.1] := by
    intro inside
    rw [h.gone _ inside] at below
    cases below
  obtain ⟨node', below', -⟩ := h.agrees.symm.exists_node aside below
  rw [Node.descend_append] at below'
  obtain ⟨outer, at_, last⟩ := Option.bind_eq_some_iff.1 below'
  obtain ⟨entries', next, rfl, entry, -⟩ := Node.descend_cons_eq_some last
  exact proper place entries' at_ (e.1, next) (Node.mem_of_named? entry)

/-! ### Walks -/

/-- A walk goes the same way in trees that agree on it. -/
theorem shows_of_agrees {spot : List Name} (agrees : AgreeOutside spot t t') {place way : List Name}
    {node node' : Node} (here : t.root.descend place = some node)
    (there : t'.root.descend place = some node') (shown : node.Shows way)
    (aside : ¬spot <+: place ++ way) : node'.Shows way := by
  have before {front rest : List Name} (same : place ++ way = front ++ rest) : ¬spot <+: front :=
    fun inside => aside (same ▸ inside.trans (List.prefix_append _ _))
  induction shown generalizing place node' with
  | file contents =>
    obtain ⟨_, there', same⟩ := agrees.exists_node (before rfl) here
    obtain rfl := Option.some.inj (there.symm.trans there')
    cases node' with
    | file contents' => exact .file contents'
    | directory entries => cases same
    | link target => cases same
  | @entry entries n next way found enters _ ih =>
    obtain ⟨entries', there'⟩ := agrees.exists_directory (before rfl) here
    obtain rfl := Option.some.inj (there.symm.trans there')
    have split : place ++ n :: way = (place ++ [n]) ++ way :=
      (List.append_assoc place [n] way).symm
    obtain ⟨next', below', shells⟩ :=
      agrees.exists_node (before split) (Node.descend_entry here found)
    have found' : Node.named? n entries' = some next' := by
      rw [← Node.descend_concat there, below']
    refine .entry found' ?_ (ih (Node.descend_entry here found) below' (split ▸ aside)
      fun same => before (split.trans same))
    rw [Node.isHiddenDirectory, ← Node.isDirectory_shell, shells, Node.isDirectory_shell]
    exact enters

/-- A walk from a directory comes to the same files in both trees, but those of the name. -/
theorem sees_iff (h : LacksDeadEnd spot n t t') (directory : t.isDirectory p)
    (other : q.fileName? ≠ some n) : t'.Sees p q ↔ t.Sees p q := by
  rcases h.node_cases p with
    ⟨there, node, node', found, found', here, here', aside, -⟩ | ⟨-, flat⟩
  · constructor
    · rintro ⟨start, way, leads, shown, short, rfl⟩
      obtain rfl := Except.ok.inj (found'.symm.trans leads)
      refine ⟨node, way, found, shows_of_agrees h.agrees.symm here' here shown ?_, short, rfl⟩
      intro inside
      obtain ⟨contents, down⟩ := shown.descend
      have gone := h.gone _ inside
      rw [Node.descend_append, here', Option.bind_some, down] at gone
      cases gone
    · rintro ⟨start, way, leads, shown, short, rfl⟩
      obtain rfl := Except.ok.inj (found.symm.trans leads)
      refine ⟨node', way, found', shows_of_agrees h.agrees here here' shown ?_, short, rfl⟩
      -- The way could only go to the name itself, and then the file would have that name.
      intro inside
      obtain ⟨contents, down⟩ := shown.descend
      have below : t.root.descend (there ++ way) = some (.file contents) := by
        rw [Node.descend_append, here, Option.bind_some, down]
      obtain ⟨front, last, rfl⟩ : ∃ front last, way = front ++ [last] := by
        rcases List.eq_nil_or_concat way with rfl | ⟨front, last, rfl⟩
        · exact absurd (by simpa using inside) aside
        · exact ⟨front, last, by simp⟩
      rw [← List.append_assoc] at inside below
      have upto : ¬spot ++ [n] <+: there ++ front := by
        intro inside'
        rw [Node.descend_append] at below
        obtain ⟨outer, at_, rest⟩ := Option.bind_eq_some_iff.1 below
        obtain ⟨entries, -, rfl, -, -⟩ := Node.descend_cons_eq_some rest
        exact h.not_directory inside' entries at_
      obtain ⟨-, rfl⟩ := eq_of_prefix_concat upto inside
      rw [List.foldl_append, List.foldl_cons, List.foldl_nil,
        Path.fileName?_child _ h.proper.idle h.proper.up] at other
      exact other rfl
  · rw [directory] at flat
    cases flat

/-- A file that a walk comes to reads the same in both trees. -/
theorem readText_of_sees (h : LacksDeadEnd spot n t t') (proper : t.Proper) (seen : t'.Sees p q) :
    t'.readText q = t.readText q := by
  by_cases short : q.octets.length ≤ longestPath
  · have file := seen.holdsFile.isFile (h.tree_proper proper) short
    obtain ⟨contents, leads⟩ := isFile_iff.1 file
    exact h.readText leads
  · -- A path that is too long is followed in neither tree.
    have begins : t'.start q = t.start q := by rw [FileTree.start, FileTree.start, h.agrees.work]
    cases begun : t.start q with
    | ok start => exact absurd (start_eq_ok_iff.1 begun).2.2.1 short
    | error e =>
      simp [FileTree.readText, FileTree.readFile, FileTree.node, FileTree.locate, begins, begun,
        bind, Except.bind]

/-- The same directories are in a directory. -/
theorem hasDirectory_iff (h : LacksDeadEnd spot n t t') (proper : t.Proper) {m : Name} :
    t'.HasDirectory p m ↔ t.HasDirectory p m := by
  have proper' := h.tree_proper proper
  -- What a name below a directory leads to, if it does, is an entry.
  have found {u : FileTree} (name : m.Proper) (outer : u.isDirectory p)
      (inner : u.isDirectory (p.child m)) : u.HasDirectory p m := by
    obtain ⟨entries, leads⟩ := isDirectory_iff.1 outer
    obtain ⟨below, leads'⟩ := isDirectory_iff.1 inner
    obtain ⟨node, entry⟩ := exists_named?_of_node_child leads name.idle name.up leads'
    exact ⟨⟨entries, node, leads, entry⟩, inner⟩
  have outer {u : FileTree} (has : u.HasDirectory p m) : u.isDirectory p := by
    obtain ⟨entries, node, leads, -⟩ := has.entry
    exact isDirectory_iff.2 ⟨entries, leads⟩
  constructor
  · intro has
    exact found (has.name proper') (h.isDirectory p ▸ outer has) (h.isDirectory _ ▸ has.leads)
  · intro has
    refine found (has.name proper) ?_ ?_
    · rw [h.isDirectory]
      exact outer has
    · rw [h.isDirectory]
      exact has.leads

end LacksDeadEnd
end FileTree
end DataShelf.Files
