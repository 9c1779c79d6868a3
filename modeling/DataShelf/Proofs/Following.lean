import DataShelf.Proofs.PathParts

/-!
# Following paths

A path is followed move by move (`follow_cons`), and what holds of each move is carried along the
path by `follow_induction`. A path of two parts is followed by following one and then the other
(`follow_append`), so a path that leads to a node can be continued down to what is below it
(`node_below`), as long as the names there are such that a directory can hold. Whether a link at the
end is followed matters only where there is one (`node_eq_ownNode_or`).
-/

namespace DataShelf.Files
set_option autoImplicit false

namespace Node

@[simp] theorem descend_nil (node : Node) : node.descend [] = some node := by
  cases node <;> rfl

@[simp] theorem descend_cons (entries : List (Name × Node)) (n : Name) (names : List Name) :
    (directory entries).descend (n :: names) =
      (named? n entries).bind fun node => node.descend names := by
  rw [descend]

/-- Names lead on from directories only. -/
theorem descend_cons_eq_some {node below : Node} {n : Name} {names : List Name}
    (h : node.descend (n :: names) = some below) :
    ∃ entries next, node = .directory entries ∧ named? n entries = some next ∧
      next.descend names = some below := by
  cases node with
  | directory entries =>
    rw [descend_cons] at h
    obtain ⟨next, found, rest⟩ := Option.bind_eq_some_iff.1 h
    exact ⟨entries, next, rfl, found, rest⟩
  | file contents => simp [descend] at h
  | link target => simp [descend] at h

/-- Names lead on from where the names before have led. -/
theorem descend_append (node : Node) (names more : List Name) :
    node.descend (names ++ more) = (node.descend names).bind fun below => below.descend more := by
  induction names generalizing node with
  | nil => simp
  | cons n names ih =>
    cases node with
    | directory entries =>
      rw [List.cons_append, descend_cons, descend_cons, Option.bind_assoc]
      exact congrArg _ (funext ih)
    | file contents => simp [descend]
    | link target => simp [descend]

/-- An entry of a directory stands at its name below the directory. -/
theorem descend_entry {node next : Node} {place : List Name} {entries : List (Name × Node)}
    {n : Name} (here : node.descend place = some (.directory entries)) (found : named? n entries = some next) :
    node.descend (place ++ [n]) = some next := by
  rw [descend_append, here, Option.bind_some, descend_cons, found, Option.bind_some, descend_nil]

/-- A way down from a directory begins at its first entry or at one of the others. -/
theorem descend_directory_cases {entries : List (Name × Node)} {m n : Name} {here below : Node}
    {names : List Name}
    (h : (directory ((m, here) :: entries)).descend (n :: names) = some below) :
    (n = m ∧ here.descend names = some below) ∨
      (directory entries).descend (n :: names) = some below := by
  by_cases same : m = n
  · subst same
    exact .inl ⟨rfl, by simpa [named?] using h⟩
  · exact .inr (by simpa [named?, same] using h)

/-- Nothing stands below a file. -/
theorem eq_nil_of_descend_file {contents : List UInt8} {names : List Name} {below : Node}
    (h : (file contents).descend names = some below) : names = [] := by
  cases names with
  | nil => rfl
  | cons n names => simp [descend] at h

/-- The first entry of a name, as the list of entries has it. -/
theorem named?_eq_some_iff {n : Name} {entries : List (Name × Node)} {node : Node} :
    named? n entries = some node ↔ entries.find? (fun e => e.1 == n) = some (n, node) := by
  induction entries with
  | nil => simp [named?]
  | cons head rest ih =>
    obtain ⟨m, here⟩ := head
    by_cases same : m = n
    · subst same
      simp [named?]
    · simp [named?, same, ih]

theorem mem_of_named? {n : Name} {entries : List (Name × Node)} {node : Node}
    (h : named? n entries = some node) : (n, node) ∈ entries :=
  List.mem_of_find?_eq_some (named?_eq_some_iff.1 h)

mutual

/-- All names in a directory and in those below it. -/
def names : Node → List Name
  | .directory entries => entryNames entries
  | _ => []

/-- All names in entries of a directory and in the directories below it. -/
def entryNames : List (Name × Node) → List Name
  | [] => []
  | (n, node) :: rest => n :: (node.names ++ entryNames rest)

end

theorem mem_entryNames {entries : List (Name × Node)} {e : Name × Node} (member : e ∈ entries) :
    e.1 ∈ entryNames entries ∧ ∀ n ∈ e.2.names, n ∈ entryNames entries := by
  induction entries with
  | nil => cases member
  | cons head rest ih =>
    rw [entryNames]
    rcases List.mem_cons.1 member with rfl | member
    · exact ⟨List.mem_cons_self, fun n hn => by simp [hn]⟩
    · exact ⟨by simp [(ih member).1], fun n hn => by simp [(ih member).2 n hn]⟩

/-- The names of entries below a node are names of it. -/
theorem mem_names_of_descend {node : Node} {place : List Name} {entries : List (Name × Node)}
    {e : Name × Node} (here : node.descend place = some (.directory entries))
    (member : e ∈ entries) : e.1 ∈ node.names := by
  induction place generalizing node with
  | nil =>
    obtain rfl : node = .directory entries := by simpa using here
    exact (mem_entryNames member).1
  | cons n place ih =>
    obtain ⟨outer, next, rfl, found, rest⟩ := descend_cons_eq_some here
    exact (mem_entryNames (mem_of_named? found)).2 _ (ih rest)

end Node

namespace FileTree

/-- What a part of a path does at a place. -/
inductive Move where
  | step (place : List Name)
  | link (target : Path)
  | fail (e : FileError)

/-- The move that a part of a path is. -/
def move (t : FileTree) (place : List Name) (part : Name) : Move :=
  match t.root.descend place with
  | some (.directory entries) =>
    if part.isIdle then .step place
    else if part == Name.dotDot then .step place.dropLast
    else if longestName < part.octets.length then .fail .nameTooLong
    else
      match Node.named? part entries with
      | none => .fail .notFound
      | some (.link target) => .link target
      | some _ => .step (place ++ [part])
  | _ => .fail .notDirectory

variable {t : FileTree} {last : Bool} {links : Nat} {place : List Name}

@[simp] theorem follow_nil : t.follow last links place [] = .ok place := by
  rw [follow]

/-- A path is followed move by move. -/
theorem follow_cons (part : Name) (rest : List Name) :
    t.follow last links place (part :: rest) =
      match t.move place part with
      | .step next => t.follow last links next rest
      | .fail e => .error e
      | .link target =>
        if rest.isEmpty && !last then .ok (place ++ [part])
        else
          match links with
          | 0 => .error .tooManyLinks
          | links + 1 =>
            t.follow last links (if target.isAbsolute then [] else place)
              (target.segments ++ rest) := by
  rw [follow, move]
  cases t.root.descend place with
  | none => rfl
  | some node =>
    cases node with
    | file contents => rfl
    | link target => rfl
    | directory entries =>
      by_cases idle : part.isIdle
      · simp [idle]
      by_cases up : part == Name.dotDot
      · simp [idle, up]
      by_cases long : longestName < part.octets.length
      · simp [idle, up, long]
      cases found : Node.named? part entries with
      | none => simp [idle, up, long, found]
      | some node => cases node <;> cases links <;> simp [idle, up, long, found]

theorem move_idle (t : FileTree) (place : List Name) {part : Name} (idle : part.isIdle) :
    t.move place part = .step place ∨ t.move place part = .fail .notDirectory := by
  unfold move
  split
  · exact .inl (if_pos idle)
  · exact .inr rfl

/-- A link stands where it is found. -/
theorem descend_of_move_link {part : Name} {target : Path} (h : t.move place part = .link target) :
    t.root.descend (place ++ [part]) = some (.link target) := by
  unfold move at h
  split at h
  · next entries here =>
    repeat' split at h
    all_goals cases h
    next found => exact Node.descend_entry here found
  · cases h

/-- Induction along a path: behind each move, and behind each link with one link less. -/
theorem follow_induction (t : FileTree) {motive : Nat → List Name → List Name → Prop}
    (nil : ∀ links place, motive links place [])
    (cons : ∀ links place part rest,
      (∀ next, motive links next rest) →
      (∀ left target, links = left + 1 → t.move place part = .link target →
        ∀ place, motive left place (target.segments ++ rest)) →
      motive links place (part :: rest))
    (links : Nat) (place parts : List Name) : motive links place parts :=
  match parts with
  | [] => nil links place
  | part :: rest =>
    cons links place part rest
      (fun next => follow_induction t nil cons links next rest)
      (fun left target less _ place =>
        have : left < links := by omega
        follow_induction t nil cons left place (target.segments ++ rest))
termination_by (links, parts.length)

/-- A link at the end is left alone where it is not to be followed, and nothing else changes. -/
theorem follow_true_eq_or (t : FileTree) (links : Nat) (place parts : List Name) :
    t.follow true links place parts = t.follow false links place parts ∨
    ∃ own target, t.follow false links place parts = .ok own ∧
      t.root.descend own = some (.link target) := by
  induction links, place, parts using follow_induction t with
  | nil links place => exact .inl (by simp)
  | cons links place part rest along behind =>
    rw [follow_cons, follow_cons]
    cases moved : t.move place part with
    | step next => exact along next
    | fail e => exact .inl rfl
    | link target =>
      cases rest with
      | nil => exact .inr ⟨_, target, rfl, descend_of_move_link moved⟩
      | cons next rest =>
        cases links with
        | zero => exact .inl rfl
        | succ left => exact behind left target rfl moved _

/-- A path of two parts is followed by following one and then the other. -/
theorem follow_append (t : FileTree) (links : Nat) (place parts : List Name) :
    (∃ e, t.follow true links place parts = .error e ∧
      ∀ more, t.follow true links place (parts ++ more) = .error e) ∨
    ∃ there left, t.follow true links place parts = .ok there ∧
      ∀ more, t.follow true links place (parts ++ more) = t.follow true left there more := by
  induction links, place, parts using follow_induction t with
  | nil links place => exact .inr ⟨place, links, by simp⟩
  | cons links place part rest along behind =>
    simp only [List.cons_append, follow_cons]
    cases moved : t.move place part with
    | step next => exact along next
    | fail e => exact .inl ⟨e, by simp⟩
    | link target =>
      cases links with
      | zero => exact .inl ⟨.tooManyLinks, by simp⟩
      | succ left => simpa using behind left target rfl moved _

/-- The node at the end of a path is the node that a link there leads to. -/
theorem node_eq_ownNode_or (t : FileTree) (p : Path) :
    t.node p = t.ownNode p ∨ ∃ target, t.ownNode p = .ok (.link target) := by
  cases begun : t.start p with
  | error e => exact .inl (by simp [node, ownNode, locate, begun, bind, Except.bind])
  | ok start =>
    rcases t.follow_true_eq_or linkLimit start p.segments with same | ⟨own, target, way, here⟩
    · exact .inl (by simp [node, ownNode, locate, begun, bind, Except.bind, same])
    · exact .inr ⟨target, by simp [ownNode, locate, begun, bind, Except.bind, way, here]⟩

/-! ### The way on -/

/-- A path can be followed if it is not empty, not too long and holds no null octet. -/
theorem start_eq_ok_iff {p : Path} {start : List Name} :
    t.start p = .ok start ↔
      0 ∉ p.octets ∧ p.octets ≠ [] ∧ p.octets.length ≤ longestPath ∧
        start = if p.isAbsolute then [] else t.work := by
  unfold FileTree.start
  by_cases null : 0 ∈ p.octets
  · simp [null]
  by_cases empty : p.octets = []
  · simp [empty]
  by_cases long : longestPath < p.octets.length
  · simp [null, empty, long, Nat.not_le.2 long]
  · simp only [List.contains_eq_mem, null, decide_false, Bool.false_eq_true, if_false,
      List.isEmpty_iff, empty, long, Except.ok.injEq, not_false_eq_true, ne_eq, true_and,
      Nat.le_of_not_lt long]
    exact eq_comm

/-- A path leads to a node if it leads to a place, from where it begins, at which the node
stands. -/
theorem node_eq_ok_iff {p : Path} {node : Node} :
    t.node p = .ok node ↔ ∃ start there, t.start p = .ok start ∧
      t.follow true linkLimit start p.segments = .ok there ∧
      t.root.descend there = some node := by
  cases begun : t.start p with
  | error e => simp [FileTree.node, locate, begun, bind, Except.bind]
  | ok start =>
    cases way : t.follow true linkLimit start p.segments with
    | error e => simp [FileTree.node, locate, begun, way, bind, Except.bind]
    | ok there =>
      cases here : t.root.descend there <;>
        simp [FileTree.node, locate, begun, way, here, bind, Except.bind]

/-- A path leads to a file exactly if a file stands at its end. -/
theorem isFile_iff {p : Path} : t.isFile p ↔ ∃ contents, t.node p = .ok (.file contents) := by
  unfold isFile
  cases t.node p with
  | error e => simp
  | ok node => cases node <;> simp

theorem isDirectory_iff {p : Path} :
    t.isDirectory p ↔ ∃ entries, t.node p = .ok (.directory entries) := by
  unfold isDirectory
  cases t.node p with
  | error e => simp
  | ok node => cases node <;> simp

/-- What can be read are files, and only these. -/
theorem readFile_eq_ok_iff {p : Path} {contents : List UInt8} :
    t.readFile p = .ok contents ↔ t.node p = .ok (.file contents) := by
  unfold readFile
  cases t.node p with
  | error e => simp
  | ok node => cases node <;> simp

/-- What can be read as text are files of encoded characters. -/
theorem readText_eq_ok_iff {p : Path} {text : String} : t.readText p = .ok text ↔
    ∃ contents, t.node p = .ok (.file contents) ∧ Text.ofOctets? contents = some text := by
  unfold readText
  simp only [← readFile_eq_ok_iff]
  cases t.readFile p with
  | error e => simp [bind, Except.bind]
  | ok contents => cases spelled : Text.ofOctets? contents <;> simp [bind, Except.bind, spelled]

/-- Single dots lead nowhere from a directory. -/
theorem follow_dots {entries : List (Name × Node)}
    (there : t.root.descend place = some (.directory entries)) (steps : Nat) :
    t.follow last links place (List.replicate steps Name.dot) = .ok place := by
  induction steps with
  | zero => exact follow_nil
  | succ steps ih =>
    have stays : t.move place Name.dot = .step place := by simp [move, there, Name.isIdle]
    rw [List.replicate_succ, follow_cons, stays]
    exact ih

theorem locate_eq_ok_iff {p : Path} {there : List Name} :
    t.locate last p = .ok there ↔ ∃ start, t.start p = .ok start ∧
      t.follow last linkLimit start p.segments = .ok there := by
  cases begun : t.start p <;> simp [locate, begun, bind, Except.bind]

theorem node_of_locate {p : Path} {there : List Name} {node : Node}
    (located : t.locate true p = .ok there) (here : t.root.descend there = some node) :
    t.node p = .ok node := by
  obtain ⟨start, begun, followed⟩ := locate_eq_ok_iff.1 located
  exact node_eq_ok_iff.2 ⟨start, there, begun, followed, here⟩

/-- A single dot leads to the working directory. -/
theorem locate_dot {entries : List (Name × Node)}
    (there : t.root.descend t.work = some (.directory entries)) :
    t.locate true ⟨[Name.dot]⟩ = .ok t.work := by
  refine locate_eq_ok_iff.2 ⟨t.work, ?_, follow_dots there 1⟩
  exact start_eq_ok_iff.2 ⟨by decide, by decide, by decide, rfl⟩

theorem node_dot {entries : List (Name × Node)}
    (there : t.root.descend t.work = some (.directory entries)) :
    t.node ⟨[Name.dot]⟩ = .ok (.directory entries) :=
  node_of_locate (locate_dot there) there

/-- All names in the directories of a tree are names that a directory can hold. -/
def Proper (t : FileTree) : Prop :=
  ∀ place entries, t.root.descend place = some (.directory entries) → ∀ e ∈ entries, e.1.Proper

/-- The names on the way to a node are such that a directory can hold them. -/
theorem Proper.names_on_way (proper : t.Proper) {place way : List Name} {node below : Node}
    (here : t.root.descend place = some node) (down : node.descend way = some below) :
    ∀ n ∈ way, n.Proper := by
  induction way generalizing place node with
  | nil => simp
  | cons n way ih =>
    obtain ⟨entries, next, rfl, found, rest⟩ := Node.descend_cons_eq_some down
    intro m hm
    rcases List.mem_cons.1 hm with rfl | hm
    · exact proper place entries here _ (Node.mem_of_named? found)
    · exact ih (Node.descend_entry here found) rest m hm

theorem proper_of_names (h : ∀ n ∈ t.root.names, n.Proper) : t.Proper :=
  fun _ _ here _ member => h _ (Node.mem_names_of_descend here member)

/-- The way down to what is no link is followed as it is. -/
theorem follow_down (proper : t.Proper) {links : Nat} {place way : List Name} {node below : Node}
    (here : t.root.descend place = some node) (down : node.descend way = some below)
    (ends : ∀ target, below ≠ .link target) :
    t.follow true links place way = .ok (place ++ way) := by
  induction way generalizing place node with
  | nil => simp
  | cons n way ih =>
    obtain ⟨entries, next, rfl, found, rest⟩ := Node.descend_cons_eq_some down
    have name : n.Proper := proper place entries here _ (Node.mem_of_named? found)
    have passes : ∀ target, next ≠ .link target := by
      rintro target rfl
      cases way with
      | nil => exact ends target (by simpa using rest.symm)
      | cons m way => simp [Node.descend] at rest
    have moved : t.move place n = .step (place ++ [n]) := by
      have short := Nat.not_lt.2 name.short
      cases next <;> simp_all [move, name.idle, name.up]
    have onwards := ih (Node.descend_entry here found) rest
    rw [follow_cons, moved]
    simpa using onwards

/-- A path below another begins where that does. -/
theorem start_below {p : Path} {way start : List Name} (begun : t.start p = .ok start)
    (more : way ≠ []) (names : ∀ n ∈ way, n.Proper)
    (short : (way.foldl Path.child p).octets.length ≤ longestPath) :
    t.start (way.foldl Path.child p) = .ok start := by
  obtain ⟨null, filled, -, rfl⟩ := start_eq_ok_iff.1 begun
  have named : ∀ n ∈ way, n ≠ Name.empty := fun n hn => (names n hn).ne_empty
  refine start_eq_ok_iff.2 ⟨?_, ?_, short, ?_⟩
  · rw [Path.mem_octets_iff _ (by decide), Path.segments_below named more]
    rintro ⟨n, hn, zero⟩
    rcases List.mem_append.1 hn with hn | hn
    · exact null ((Path.mem_octets_iff p (by decide)).2 ⟨n, Path.mem_segments_of_parts hn, zero⟩)
    · exact (names n hn).null zero
  · obtain ⟨n, hn⟩ := List.exists_mem_of_ne_nil way more
    obtain ⟨b, hb⟩ := List.exists_mem_of_ne_nil n.octets fun empty => named n hn (by
      cases n; exact congrArg Name.mk empty)
    have other : b ≠ 47 := fun slash => (names n hn).slash (slash ▸ hb)
    have member := (Path.mem_octets_iff (way.foldl Path.child p) other).2
      ⟨n, by rw [Path.segments_below named more]; exact List.mem_append_right _ hn, hb⟩
    exact List.ne_nil_of_mem member
  · rw [Path.isAbsolute_below filled named more]

/-- A path leads on from where it leads, with or without a slash at its end. -/
theorem follow_parts {links : Nat} {start there : List Name} {p : Path}
    (followed : t.follow true links start p.segments = .ok there) :
    ∃ left, ∀ more,
      t.follow true links start (p.parts ++ more) = t.follow true left there more := by
  rcases t.follow_append links start p.parts with
    ⟨e, failed, always⟩ | ⟨mid, left, reached, onwards⟩
  · rcases p.segments_eq_parts_or with same | same <;> rw [same] at followed
    · simp [failed] at followed
    · simp [always] at followed
  · refine ⟨left, fun more => ?_⟩
    suffices mid = there by rw [onwards, this]
    rcases p.segments_eq_parts_or with same | same <;> rw [same] at followed
    · simpa [reached] using followed
    · rw [onwards, follow_cons] at followed
      rcases move_idle t mid (by decide : Name.empty.isIdle) with stays | fails
      · simpa [stays] using followed
      · simp [fails] at followed

/-- A path that leads to a node can be continued down to what is below it and no link. -/
theorem locate_below (proper : t.Proper) {p : Path} {there way : List Name} {node below : Node}
    (located : t.locate true p = .ok there) (here : t.root.descend there = some node)
    (down : node.descend way = some below) (ends : ∀ target, below ≠ .link target)
    (short : (way.foldl Path.child p).octets.length ≤ longestPath) :
    t.locate true (way.foldl Path.child p) = .ok (there ++ way) := by
  by_cases more : way = []
  · subst more
    simpa using located
  obtain ⟨start, begun, followed⟩ := locate_eq_ok_iff.1 located
  have names : ∀ n ∈ way, n.Proper := proper.names_on_way here down
  refine locate_eq_ok_iff.2 ⟨start, start_below begun more names short, ?_⟩
  obtain ⟨left, onwards⟩ := follow_parts followed
  rw [Path.segments_below (fun n hn => (names n hn).ne_empty) more, onwards]
  exact follow_down proper here down ends

theorem node_below (proper : t.Proper) {p : Path} {way : List Name} {node below : Node}
    (found : t.node p = .ok node) (down : node.descend way = some below)
    (ends : ∀ target, below ≠ .link target)
    (short : (way.foldl Path.child p).octets.length ≤ longestPath) :
    t.node (way.foldl Path.child p) = .ok below := by
  obtain ⟨start, there, begun, followed, here⟩ := node_eq_ok_iff.1 found
  have located := locate_eq_ok_iff.2 ⟨start, begun, followed⟩
  apply node_of_locate (locate_below proper located here down ends short)
  rw [Node.descend_append, here, Option.bind_some, down]

/-- Names on the way down from a node that a path leads to are such that a directory can hold. -/
theorem Proper.names_below (proper : t.Proper) {p : Path} {way : List Name} {node below : Node}
    (found : t.node p = .ok node) (down : node.descend way = some below) : ∀ n ∈ way, n.Proper := by
  obtain ⟨start, there, -, -, here⟩ := node_eq_ok_iff.1 found
  exact proper.names_on_way here down

/-- What a name below the path of a directory leads to is an entry there. -/
theorem exists_named?_of_node_child {p : Path} {n : Name} {entries : List (Name × Node)} {node : Node}
    (found : t.node p = .ok (.directory entries)) (real : n.isIdle = false) (up : n ≠ Name.dotDot)
    (leads : t.node (p.child n) = .ok node) : ∃ next, Node.named? n entries = some next := by
  obtain ⟨start, there, begun, followed, here⟩ := node_eq_ok_iff.1 found
  obtain ⟨start', there', begun', followed', -⟩ := node_eq_ok_iff.1 leads
  obtain ⟨-, filled, -, rfl⟩ := start_eq_ok_iff.1 begun
  obtain ⟨-, -, -, rfl⟩ := start_eq_ok_iff.1 begun'
  have named : n ≠ Name.empty := by
    rintro rfl
    exact absurd real (by decide)
  have absolute : (p.child n).isAbsolute = p.isAbsolute := by
    show ([n].foldl Path.child p).isAbsolute = p.isAbsolute
    exact Path.isAbsolute_below filled (by simpa using named) (by simp)
  obtain ⟨left, onwards⟩ := follow_parts followed
  rw [absolute, Path.segments_child, onwards, follow_cons] at followed'
  cases entry : Node.named? n entries with
  | some next => exact ⟨next, rfl⟩
  | none =>
    exfalso
    by_cases long : longestName < n.octets.length
    · have fails : t.move there n = .fail .nameTooLong := by simp [move, here, real, up, long]
      simp [fails] at followed'
    · have fails : t.move there n = .fail .notFound := by simp [move, here, real, up, long, entry]
      simp [fails] at followed'

end FileTree
end DataShelf.Files
