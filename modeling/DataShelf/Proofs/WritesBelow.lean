import DataShelf.Proofs.PathsBelow
import DataShelf.Proofs.RenderedProjects
import DataShelf.Proofs.TreeGrowth

/-!
# Writes below a directory

Where a path leads to a directory, names go on from it to a place below it. Directories are made there
if nothing but directories stands on the way (`makeDirectories_below`), and a file is written if its
directory stands and no directory stands in its place (`writeFile_below`). That is also the only case
in which it is written, as long as there are no links below the directory
(`room_of_writeFile`).
-/

namespace DataShelf.Files
set_option autoImplicit false

/-- A name that leads further down, if it is not too long and holds no null octet. -/
structure Name.Ordinary (n : Name) : Prop where
  idle : n.isIdle = false
  up : n ≠ Name.dotDot
  slash : 47 ∉ n.octets

theorem Name.Proper.ordinary {n : Name} (h : n.Proper) : n.Ordinary := ⟨h.idle, h.up, h.slash⟩

theorem Name.Ordinary.ne_empty {n : Name} (h : n.Ordinary) : n ≠ Name.empty := by
  rintro rfl
  exact absurd h.idle (by decide)

/-! ### Paths that end in a name -/

namespace Path

variable {p base : Path} {n : Name} {way : List Name}

theorem endsInName_child (p : Path) (name : n.Ordinary) : (p.child n).EndsInName :=
  ⟨p, n, name.idle, name.up, rfl⟩

/-- A path below one that ends in a name does too. -/
theorem EndsInName.below (h : p.EndsInName) (names : ∀ n ∈ way, n.Ordinary) :
    (way.foldl child p).EndsInName := by
  induction way generalizing p with
  | nil => exact h
  | cons n way ih =>
    obtain ⟨name, names⟩ := List.forall_mem_cons.1 names
    exact ih (endsInName_child p name) names

theorem endsInName_below (p : Path) (more : way ≠ []) (names : ∀ n ∈ way, n.Ordinary) :
    (way.foldl child p).EndsInName := by
  obtain ⟨n, way, rfl⟩ := List.exists_cons_of_ne_nil more
  obtain ⟨name, names⟩ := List.forall_mem_cons.1 names
  exact (endsInName_child p name).below names

/-- A path has as many segments as there are names that were put below another one. -/
theorem length_lt_segments (base : Path) (named : ∀ n ∈ way, n ≠ Name.empty) :
    way.length < (way.foldl child base).segments.length + 1 := by
  by_cases more : way = []
  · rw [more, List.length_nil]
    omega
  · rw [segments_below named more, List.length_append]
    omega

theorem EndsInName.ne_empty (h : p.EndsInName) : p ≠ empty := by
  obtain ⟨above, n, real, -, rfl⟩ := h
  intro same
  have last := congrArg (fun p : Path => p.segments.getLast?) same
  simp only [segments_child, List.getLast?_concat] at last
  obtain rfl : n = Name.empty := Option.some.inj last
  exact absurd real (by decide)

end Path

namespace FileTree

variable {t t' : FileTree} {p base : Path} {start spot place way : List Name} {n : Name}
  {entries : List (Name × Node)} {links : Nat}

/-! ### Slots -/

theorem splitEnd?_concat (front : List Name) (named : n ≠ Name.empty) :
    splitEnd? (front ++ [n]) = some (front, n) := by
  simp [splitEnd?, named]

theorem followToDirectory_of_follow (followed : t.follow true links start way = .ok place)
    (here : t.root.descend place = some (.directory entries)) :
    t.followToDirectory links start way = .ok (place, entries) := by
  simp [followToDirectory, followed, here, bind, Except.bind]

/-- A directory is followed to by the way that leads to it. -/
theorem follow_of_followToDirectory {e : List Name × List (Name × Node)}
    (reached : t.followToDirectory links start way = .ok e) :
    t.follow true links start way = .ok e.1 ∧ t.root.descend e.1 = some (.directory e.2) := by
  obtain ⟨place, followed, reached⟩ := Json.bind_eq_ok_iff.1 reached
  split at reached
  · next entries here =>
    obtain rfl := Except.ok.inj reached
    exact ⟨followed, here⟩
  · cases reached

/-- A directory can be made where its name is free in the directory that is to hold it. -/
theorem freeSlot_concat (begun : t.start p = .ok start) (cut : p.segments = way ++ [n])
    (real : n.isIdle = false) (up : n ≠ Name.dotDot) :
    t.freeSlot p = (t.followToDirectory linkLimit start way).bind fun e =>
      if (Node.named? n e.2).isSome then .error .exists
      else if longestName < n.octets.length then .error .nameTooLong
      else .ok (e.1, n) := by
  obtain ⟨named, dot⟩ : n ≠ Name.empty ∧ n ≠ Name.dot := by simpa [Name.isIdle] using real
  simp only [freeSlot, begun, cut, splitEnd?_concat way named, bind, Except.bind]
  cases t.followToDirectory linkLimit start way with
  | error e => rfl
  | ok e => simp [dot, up]

/-- A file can be written where no directory has its name in the directory that is to hold it; what
is written to a link goes to where the link leads. -/
theorem fileSlot_concat (t : FileTree) (links : Nat) (start way : List Name)
    (real : n.isIdle = false) (up : n ≠ Name.dotDot) :
    t.fileSlot links start (way ++ [n]) = (t.followToDirectory links start way).bind fun e =>
      if longestName < n.octets.length then .error .nameTooLong
      else
        match Node.named? n e.2 with
        | some (.directory _) => .error .isDirectory
        | some (.link target) =>
          match links with
          | 0 => .error .tooManyLinks
          | links + 1 =>
            t.fileSlot links (if target.isAbsolute then [] else e.1) target.segments
        | _ => .ok (e.1, n) := by
  obtain ⟨named, dot⟩ : n ≠ Name.empty ∧ n ≠ Name.dot := by simpa [Name.isIdle] using real
  have passes : (n == Name.dot || n == Name.dotDot ||
      (way ++ [n]).getLast? == some Name.empty) = false := by simp [named, dot, up]
  rw [fileSlot, splitEnd?_concat way named]
  simp only [passes, bind, Except.bind]
  cases t.followToDirectory links start way <;> rfl

/-! ### Names on the way -/

/-- Where a name is followed, it is that of an entry, and not too long. -/
theorem exists_entry_of_follow {rest there : List Name} (real : n.isIdle = false)
    (up : n ≠ Name.dotDot) (followed : t.follow true links place (n :: rest) = .ok there) :
    ∃ entries next, t.root.descend place = some (.directory entries) ∧
      Node.named? n entries = some next ∧ n.octets.length ≤ longestName := by
  rw [follow_cons, move] at followed
  cases here : t.root.descend place with
  | none => simp [here] at followed
  | some node =>
    cases node with
    | file contents => simp [here] at followed
    | link target => simp [here] at followed
    | directory entries =>
      by_cases long : longestName < n.octets.length
      · simp [here, real, up, long] at followed
      · cases found : Node.named? n entries with
        | none => simp [here, real, up, long, found] at followed
        | some next => exact ⟨entries, next, rfl, found, Nat.le_of_not_lt long⟩

/-- Nothing but directories stands along a way from a place. -/
def ClearTo (t : FileTree) (spot way : List Name) : Prop :=
  ∀ front, front <+: way →
    t.standing (spot ++ front) = none ∨ t.standing (spot ++ front) = some (.directory [])

theorem standing_below_empty (empty : t.root.descend spot = some (.directory [])) (n : Name)
    (rest : List Name) : t.standing (spot ++ n :: rest) = none := by
  rw [standing, Node.descend_append, empty]
  simp [Node.named?]

/-- An empty directory is clear for any way. -/
theorem clearTo_of_empty (empty : t.root.descend spot = some (.directory [])) (way : List Name) :
    t.ClearTo spot way := by
  intro front _
  cases front with
  | nil =>
    rw [List.append_nil]
    exact .inr (standing_directory_iff.2 ⟨[], empty⟩)
  | cons n rest => exact .inl (standing_below_empty empty n rest)

/-- Where nothing stands at the end of a way through directories, the way is not found. -/
theorem follow_missing (names : ∀ n ∈ way, n.Proper)
    (here : t.standing place = some (.directory [])) (clear : t.ClearTo place way)
    (missing : t.standing (place ++ way) = none) :
    t.follow true links place way = .error .notFound := by
  induction way generalizing place with
  | nil => simp [here] at missing
  | cons n way ih =>
    obtain ⟨name, names⟩ := List.forall_mem_cons.1 names
    obtain ⟨entries, there⟩ := standing_directory_iff.1 here
    have short := Nat.not_lt.2 name.short
    have next := standing_concat there n
    rw [follow_cons]
    rcases clear [n] (by simp) with nothing | directory
    · rw [nothing] at next
      have found : Node.named? n entries = none := by simpa using next.symm
      have fails : t.move place n = .fail .notFound := by
        simp [move, there, name.idle, name.up, short, found]
      rw [fails]
    · obtain ⟨inside, below⟩ := standing_directory_iff.1 directory
      rw [Node.descend_concat there] at below
      have moves : t.move place n = .step (place ++ [n]) := by
        simp [move, there, name.idle, name.up, short, below]
      rw [moves]
      refine ih names directory (fun front before => ?_) (by simpa using missing)
      have onwards := clear (n :: front) (List.cons_prefix_cons.2 ⟨rfl, before⟩)
      simpa using onwards

/-- Where there are no links, a way is followed as it is, through names that are not too long. -/
theorem eq_of_follow_plain {there : List Name} (names : ∀ n ∈ way, n.Ordinary)
    (plain : ∀ front target, t.standing (place ++ front) ≠ some (.link target))
    (followed : t.follow true links place way = .ok there) :
    there = place ++ way ∧ ∀ n ∈ way, n.octets.length ≤ longestName := by
  induction way generalizing place with
  | nil =>
    obtain rfl := Except.ok.inj (follow_nil.symm.trans followed)
    simp
  | cons n way ih =>
    obtain ⟨name, names⟩ := List.forall_mem_cons.1 names
    obtain ⟨entries, next, here, found, short⟩ :=
      exists_entry_of_follow name.idle name.up followed
    have no : ∀ target, next ≠ .link target := by
      rintro target rfl
      apply plain [n] target
      rw [standing_concat here, found, Option.map_some, Node.shell]
      simp
    have moves : t.move place n = .step (place ++ [n]) := by
      have long := Nat.not_lt.2 short
      cases next <;> simp_all [move, name.idle, name.up]
    rw [follow_cons, moves] at followed
    have plain' (front : List Name) (target : Path) :
        t.standing (place ++ [n] ++ front) ≠ some (.link target) := by
      rw [List.append_assoc]
      exact plain ([n] ++ front) target
    obtain ⟨same, others⟩ := ih names plain' followed
    exact ⟨by simpa using same, List.forall_mem_cons.2 ⟨short, others⟩⟩

/-- No directory is made where a path leads to one. -/
theorem makeDirectory_of_isDirectory (named : p.EndsInName) (there : t.isDirectory p) :
    t.makeDirectory p = .error .exists := by
  obtain ⟨above, n, real, up, rfl⟩ := named
  obtain ⟨entries, leads⟩ := isDirectory_iff.1 there
  obtain ⟨start, end_, begun, followed, -⟩ := node_eq_ok_iff.1 leads
  have cut := Path.segments_child above n
  rw [cut] at followed
  rcases t.follow_append linkLimit start above.parts with
    ⟨e, -, always⟩ | ⟨mid, left, reached, onwards⟩
  · simp [always] at followed
  · rw [onwards] at followed
    obtain ⟨entries, next, here, found, -⟩ := exists_entry_of_follow real up followed
    rw [makeDirectory, freeSlot_concat begun cut real up,
      followToDirectory_of_follow reached here]
    simp [Except.bind, found, bind]

/-! ### Ways on from a directory -/

section Below

variable (proper : t.Proper) (located : t.locate true base = .ok spot)

include proper in
theorem follow_to_directory (above : t.standing (spot ++ way) = some (.directory [])) :
    t.follow true links spot way = .ok (spot ++ way) := by
  obtain ⟨entries, down⟩ := standing_directory_iff.1 above
  rw [Node.descend_append] at down
  obtain ⟨node, here, onwards⟩ := Option.bind_eq_some_iff.1 down
  exact follow_down proper here onwards nofun

include located in
/-- A path that goes on by names from where another one leads is followed on from there. -/
theorem exists_follow_below (names : ∀ m ∈ way ++ [n], m.Proper) (short : fits base (way ++ [n])) :
    ∃ start left, t.start ((way ++ [n]).foldl Path.child base) = .ok start ∧
      ((way ++ [n]).foldl Path.child base).segments = (base.parts ++ way) ++ [n] ∧
      t.follow true linkLimit start (base.parts ++ way) = t.follow true left spot way := by
  obtain ⟨start, begun, followed⟩ := locate_eq_ok_iff.1 located
  obtain ⟨left, onwards⟩ := follow_parts followed
  refine ⟨start, left, start_below begun (by simp) names (of_decide_eq_true short), ?_, onwards way⟩
  rw [Path.segments_below (fun m member => (names m member).ne_empty) (by simp), List.append_assoc]

section Names

variable (names : ∀ m ∈ way ++ [n], m.Proper) (short : fits base (way ++ [n]))

include located names short

/-- No directory is made where the one that is to hold it is missing. -/
theorem makeDirectory_missing (here : t.standing spot = some (.directory []))
    (clear : t.ClearTo spot way) (missing : t.standing (spot ++ way) = none) :
    t.makeDirectory ((way ++ [n]).foldl Path.child base) = .error .notFound := by
  obtain ⟨start, left, begun, cut, onwards⟩ := exists_follow_below located names short
  have name : n.Proper := names n (by simp)
  have lost : t.follow true linkLimit start (base.parts ++ way) = .error .notFound := by
    rw [onwards]
    exact follow_missing (fun m member => names m (List.mem_append_left _ member)) here clear missing
  rw [makeDirectory, freeSlot_concat begun cut name.idle name.up, followToDirectory, lost]
  rfl

include proper

/-- A directory is made in a directory where nothing stands. -/
theorem makeDirectory_below (above : t.standing (spot ++ way) = some (.directory []))
    (free : t.standing (spot ++ (way ++ [n])) = none) :
    t.makeDirectory ((way ++ [n]).foldl Path.child base) =
      .ok (t.alter (spot ++ way) (Node.putEntry n (.directory []))) := by
  obtain ⟨start, left, begun, cut, onwards⟩ := exists_follow_below located names short
  obtain ⟨entries, here⟩ := standing_directory_iff.1 above
  have name : n.Proper := names n (by simp)
  have followed := onwards.trans (follow_to_directory proper above)
  have missing : Node.named? n entries = none := by
    rw [← List.append_assoc, standing_concat here] at free
    simpa using free
  rw [makeDirectory, freeSlot_concat begun cut name.idle name.up,
    followToDirectory_of_follow followed here]
  simp [Except.bind, bind, missing, Nat.not_lt.2 name.short]

/-- A file is written in a directory where nothing or a file stands. -/
theorem writeFile_below (above : t.standing (spot ++ way) = some (.directory []))
    (room : t.standing (spot ++ (way ++ [n])) = none ∨
      ∃ old, t.standing (spot ++ (way ++ [n])) = some (.file old)) (contents : List UInt8) :
    t.writeFile ((way ++ [n]).foldl Path.child base) contents =
      .ok (t.alter (spot ++ way) (Node.putEntry n (.file contents))) := by
  obtain ⟨start, left, begun, cut, onwards⟩ := exists_follow_below located names short
  obtain ⟨entries, here⟩ := standing_directory_iff.1 above
  have name : n.Proper := names n (by simp)
  have followed := onwards.trans (follow_to_directory proper above)
  have slot : t.fileSlot linkLimit start ((base.parts ++ way) ++ [n]) = .ok (spot ++ way, n) := by
    rw [fileSlot_concat _ _ _ _ name.idle name.up, followToDirectory_of_follow followed here]
    simp only [Except.bind, Nat.not_lt.2 name.short, if_false]
    rw [← List.append_assoc, standing_concat here] at room
    cases found : Node.named? n entries with
    | none => rfl
    | some next =>
      cases next with
      | file old => rfl
      | directory inside => simp [found, Node.shell] at room
      | link target => simp [found, Node.shell] at room
  rw [writeFile, begun, cut]
  simp only [bind, Except.bind, slot]

end Names

end Below

/-! ### Directories on a way -/

theorem not_prefix_of_further : ¬spot ++ (way ++ [n]) <+: spot ++ way := by
  intro inside
  have shorter := inside.length_le
  simp only [List.length_append, List.length_singleton] at shorter
  omega

theorem prefix_further_iff (other : place ≠ spot ++ (way ++ [n])) :
    place <+: spot ++ (way ++ [n]) ↔ place <+: spot ++ way := by
  rw [← List.append_assoc] at other ⊢
  rw [List.prefix_concat_iff, or_iff_right other]

/-- A beginning of a way that is not all of it leaves out the last name. -/
theorem prefix_dropLast {front : List Name} (before : front <+: way) (other : front ≠ way) :
    front <+: way.dropLast := by
  obtain ⟨rest, rfl⟩ := before
  have more : rest ≠ [] := by
    rintro rfl
    exact other (List.append_nil _).symm
  rw [List.dropLast_append_of_ne_nil more]
  exact List.prefix_append _ _

/-- Names stay proper where what is new stands on a way of proper names. -/
theorem proper_of_new (proper : t.Proper) (here : t.standing spot = some (.directory []))
    (names : ∀ n ∈ way, n.Proper)
    (new : ∀ place node, t'.standing place = some node →
      t.standing place = some node ∨ spot <+: place ∧ place <+: spot ++ way) : t'.Proper := by
  rw [proper_iff_standing] at proper ⊢
  intro place n node there
  rcases new _ node there with old | ⟨⟨front, whole⟩, before⟩
  · exact proper place n node old
  · rw [← whole, List.prefix_append_right_inj] at before
    rcases List.eq_nil_or_concat front with rfl | ⟨front, m, rfl⟩
    · rw [List.append_nil] at whole
      exact proper place n _ (whole ▸ here)
    · rw [List.concat_eq_append, ← List.append_assoc] at whole
      obtain ⟨-, same⟩ := List.append_inj' whole rfl
      obtain rfl : m = n := by simpa using same
      exact names m (before.subset (by simp))

/-- The second tree is the first with directories all along a way from a place. -/
structure DirectoriesMade (spot way : List Name) (t t' : FileTree) : Prop where
  work : t'.work = t.work
  standing : ∀ place, t'.standing place =
    if spot <+: place ∧ place <+: spot ++ way then some (.directory []) else t.standing place

namespace DirectoriesMade

variable (h : DirectoriesMade spot way t t')

include h

/-- Making directories makes a tree grow. -/
theorem grows (clear : t.ClearTo spot way) : t.Grows t' where
  work := h.work
  kept := by
    intro place node there
    rw [h.standing]
    split
    · next inside =>
      obtain ⟨⟨front, rfl⟩, before⟩ := inside
      rcases clear front ((List.prefix_append_right_inj spot).1 before) with none | directory
      · simp [none] at there
      · obtain rfl := Option.some.inj (directory.symm.trans there)
        exact ⟨_, rfl, rfl⟩
    · exact ⟨node, there, rfl⟩

theorem proper (proper : t.Proper) (here : t.standing spot = some (.directory []))
    (names : ∀ n ∈ way, n.Proper) : t'.Proper := by
  refine proper_of_new proper here names fun place node there => ?_
  rw [h.standing] at there
  split at there
  · next inside => exact .inr inside
  · exact .inl there

end DirectoriesMade

/-- A directory that is made in the last one is made with those. -/
theorem directoriesMade_concat (h : DirectoriesMade spot way t t') {t'' : FileTree}
    (work : t''.work = t'.work)
    (standing : t''.standing =
      Function.update t'.standing (spot ++ (way ++ [n])) (some (.directory []))) :
    DirectoriesMade spot (way ++ [n]) t t'' where
  work := work.trans h.work
  standing := by
    intro place
    rw [standing]
    by_cases last : place = spot ++ (way ++ [n])
    · subst last
      rw [Function.update_self, if_pos ⟨List.prefix_append _ _, List.prefix_rfl⟩]
    · rw [Function.update_of_ne last, h.standing]
      simp only [prefix_further_iff last]

/-- Where a directory stands, the directories of the way to it stand too. -/
theorem directoriesMade_refl (there : t.standing (spot ++ way) = some (.directory [])) :
    DirectoriesMade spot way t t where
  work := rfl
  standing := by
    intro place
    split
    · next inside =>
      obtain ⟨rest, whole⟩ := inside.2
      cases rest with
      | nil =>
        rw [List.append_nil] at whole
        rw [whole, there]
      | cons m rest =>
        rw [← whole] at there
        exact directory_of_standing (List.cons_ne_nil m rest) there
    · rfl

/-- A path below leads to the directory that stands there. -/
theorem isDirectory_below (proper : t.Proper) (located : t.locate true base = .ok spot)
    (short : fits base way) (there : t.standing (spot ++ way) = some (.directory [])) :
    t.isDirectory (way.foldl Path.child base) := by
  obtain ⟨entries, down⟩ := standing_directory_iff.1 there
  have whole := down
  rw [Node.descend_append] at down
  obtain ⟨node, here, onwards⟩ := Option.bind_eq_some_iff.1 down
  rw [isDirectory, node_of_fits proper (node_of_locate located here) onwards (by simp) short]

/-- Where a directory stands nothing is made. -/
theorem makeDirectories_of_isDirectory (named : p.EndsInName) (there : t.isDirectory p)
    (steps : Nat) : makeDirectories (steps + 1) t p = .ok t := by
  have made := makeDirectory_of_isDirectory named there
  rw [makeDirectories, if_neg (by simpa using named.ne_empty), made]
  simp only [there, if_true]

/-- Where the directories on a way stand, the next one is made. -/
theorem makeDirectory_further (proper : t.Proper) (located : t.locate true base = .ok spot)
    (here : t.standing spot = some (.directory [])) (names : ∀ m ∈ way ++ [n], m.Proper)
    (short : fits base (way ++ [n])) (clear : t.ClearTo spot way)
    (free : t.standing (spot ++ (way ++ [n])) = none) (further : DirectoriesMade spot way t t') :
    ∃ t'', t'.makeDirectory ((way ++ [n]).foldl Path.child base) = .ok t'' ∧
      DirectoriesMade spot (way ++ [n]) t t'' := by
  have above : t'.standing (spot ++ way) = some (.directory []) := by
    rw [further.standing, if_pos ⟨List.prefix_append _ _, List.prefix_rfl⟩]
  have free' : t'.standing (spot ++ (way ++ [n])) = none := by
    rw [further.standing, if_neg fun inside => not_prefix_of_further inside.2, free]
  have proper' := further.proper proper here fun m member => names m (List.mem_append_left _ member)
  have located' := (further.grows clear).locate located
  refine ⟨_, makeDirectory_below proper' located' names short above free', ?_⟩
  obtain ⟨entries, held⟩ := standing_directory_iff.1 above
  refine directoriesMade_concat further rfl ?_
  rw [← List.append_assoc] at free' ⊢
  have fresh : t'.standing (spot ++ way ++ [n]) ≠ some (.directory []) := by
    rw [free']
    exact nofun
  exact standing_alter held fresh rfl

/-- **Directories on a way.** All directories on a way are made where nothing but directories stands
on it. -/
theorem makeDirectories_below (proper : t.Proper) (located : t.locate true base = .ok spot)
    (here : t.standing spot = some (.directory [])) (names : ∀ n ∈ way, n.Proper)
    (named : (way.foldl Path.child base).EndsInName) (short : fits base way)
    (clear : t.ClearTo spot way) {steps : Nat} (enough : way.length < steps) :
    ∃ t', makeDirectories steps t (way.foldl Path.child base) = .ok t' ∧
      DirectoriesMade spot way t t' := by
  -- A directory is made when those before it stand, so the induction is from the end of the way.
  induction way using List.reverseRecOn generalizing steps with
  | nil =>
    obtain ⟨steps, rfl⟩ : ∃ less, steps = less + 1 := ⟨steps - 1, by omega⟩
    have there : t.standing (spot ++ []) = some (.directory []) := by rwa [List.append_nil]
    exact ⟨t, makeDirectories_of_isDirectory named
      (isDirectory_below proper located short there) steps, directoriesMade_refl there⟩
  | append_singleton way n ih =>
    obtain ⟨steps, rfl⟩ : ∃ less, steps = less + 1 := ⟨steps - 1, by omega⟩
    rcases clear (way ++ [n]) List.prefix_rfl with free | there
    · have before : t.ClearTo spot way := fun front begins =>
        clear front (begins.trans (List.prefix_append way [n]))
      have names' : ∀ m ∈ way, m.Proper := fun m member => names m (List.mem_append_left _ member)
      rw [makeDirectories, if_neg (by simpa using named.ne_empty)]
      rcases before way List.prefix_rfl with missing | above
      · have lost := makeDirectory_missing located names short here before missing
        have more : way ≠ [] := by
          rintro rfl
          rw [List.append_nil, here] at missing
          cases missing
        have named' : (way.foldl Path.child base).EndsInName :=
          Path.endsInName_below base more fun m member => (names' m member).ordinary
        have parent : ((way ++ [n]).foldl Path.child base).parent? =
            some (way.foldl Path.child base) := by
          rw [List.foldl_append]
          exact named'.parent?_child (names n (by simp)).idle
        have fewer : way.length < steps := by
          rw [List.length_append, List.length_singleton] at enough
          omega
        obtain ⟨t₁, done, made⟩ := ih names' named' (fits_of_concat short) before fewer
        obtain ⟨t', last, all⟩ :=
          makeDirectory_further proper located here names short before free made
        refine ⟨t', ?_, all⟩
        simp only [lost, parent, done, bind, Except.bind, last]
      · obtain ⟨t', done, all⟩ := makeDirectory_further proper located here names short before free
          (directoriesMade_refl above)
        refine ⟨t', ?_, all⟩
        simp only [done]
    · exact ⟨t, makeDirectories_of_isDirectory named
        (isDirectory_below proper located short there) steps, directoriesMade_refl there⟩

/-! ### Files at the end of a way -/

/-- The second tree is the first with a file at the end of a way from a place, and with directories on
the way there. -/
structure FileMade (spot way : List Name) (contents : List UInt8) (t t' : FileTree) : Prop where
  work : t'.work = t.work
  standing : ∀ place, t'.standing place =
    if place = spot ++ way then some (.file contents)
    else if spot <+: place ∧ place <+: spot ++ way then some (.directory [])
    else t.standing place

/-- There is room for a file at the end of a way from a place: no name is too long or holds a null
octet, the path is not too long, and no file stands on the way, nor a directory at its end. -/
structure RoomFor (t : FileTree) (base : Path) (spot way : List Name) : Prop where
  names : ∀ n ∈ way, n.Proper
  short : fits base way
  clear : t.ClearTo spot way.dropLast
  free : t.standing (spot ++ way) = none ∨ ∃ old, t.standing (spot ++ way) = some (.file old)

variable {contents : List UInt8}

namespace FileMade

variable (made : FileMade spot way contents t t')

include made

/-- Writing a file where there is room makes a tree grow. -/
theorem grows (room : t.RoomFor base spot way) : t.Grows t' where
  work := made.work
  kept := by
    intro place node there
    rw [made.standing]
    split
    · next last =>
      subst last
      rcases room.free with absent | ⟨old, file⟩
      · rw [absent] at there
        cases there
      · obtain rfl := Option.some.inj (file.symm.trans there)
        exact ⟨_, rfl, rfl⟩
    · next other =>
      split
      · next inside =>
        obtain ⟨⟨front, rfl⟩, before⟩ := inside
        have shorter := prefix_dropLast ((List.prefix_append_right_inj spot).1 before)
          (by simpa using other)
        rcases room.clear front shorter with none | directory
        · rw [none] at there
          cases there
        · obtain rfl := Option.some.inj (directory.symm.trans there)
          exact ⟨_, rfl, rfl⟩
      · exact ⟨node, there, rfl⟩

/-- Writing a file of a proper name keeps a tree proper. -/
theorem proper (proper : t.Proper) (here : t.standing spot = some (.directory []))
    (names : ∀ n ∈ way, n.Proper) : t'.Proper := by
  refine proper_of_new proper here names fun place node there => ?_
  rw [made.standing] at there
  split at there
  · next last =>
    subst last
    exact .inr ⟨List.prefix_append _ _, List.prefix_rfl⟩
  · split at there
    · next inside => exact .inr inside
    · exact .inl there

end FileMade

/-- Where there is room, directories are made on the way to a file, and the file is written. -/
theorem exists_fileMade (named : base.EndsInName) (proper : t.Proper)
    (located : t.locate true base = .ok spot) (here : t.standing spot = some (.directory []))
    (room : t.RoomFor base spot (way ++ [n])) (contents : List UInt8) {steps : Nat}
    (enough : way.length < steps) :
    ∃ t₁ t', makeDirectories steps t (way.foldl Path.child base) = .ok t₁ ∧
      t₁.writeFile ((way ++ [n]).foldl Path.child base) contents = .ok t' ∧
      FileMade spot (way ++ [n]) contents t t' := by
  have clear : t.ClearTo spot way := by simpa using room.clear
  have names : ∀ m ∈ way, m.Proper := fun m member => room.names m (List.mem_append_left _ member)
  have ends := named.below fun m member => (names m member).ordinary
  obtain ⟨t₁, done, made⟩ := makeDirectories_below proper located here names ends
    (fits_of_concat room.short) clear enough
  have above : t₁.standing (spot ++ way) = some (.directory []) := by
    rw [made.standing, if_pos ⟨List.prefix_append _ _, List.prefix_rfl⟩]
  have same : t₁.standing (spot ++ (way ++ [n])) = t.standing (spot ++ (way ++ [n])) := by
    rw [made.standing, if_neg fun inside => not_prefix_of_further inside.2]
  have written := writeFile_below (made.proper proper here names)
    ((made.grows clear).locate located) room.names room.short above (by rw [same]; exact room.free)
    contents
  obtain ⟨entries, held⟩ := standing_directory_iff.1 above
  have fresh : t₁.standing (spot ++ way ++ [n]) ≠ some (.directory []) := by
    rw [List.append_assoc, same]
    rcases room.free with absent | ⟨old, file⟩
    · simp [absent]
    · simp [file]
  refine ⟨t₁, _, done, written, made.work, fun place => ?_⟩
  rw [standing_alter held fresh rfl, List.append_assoc]
  by_cases last : place = spot ++ (way ++ [n])
  · rw [if_pos last, last, Function.update_self]
  · rw [if_neg last, Function.update_of_ne last, made.standing]
    simp only [prefix_further_iff last]

/-! ### What must have been there -/

/-- Only directories are new in the second tree. -/
structure OnlyDirectories (t t' : FileTree) : Prop where
  work : t'.work = t.work
  standing : ∀ place, t'.standing place = t.standing place ∨
    t.standing place = none ∧ t'.standing place = some (.directory [])

namespace OnlyDirectories

theorem refl (t : FileTree) : OnlyDirectories t t := ⟨rfl, fun _ => .inl rfl⟩

/-- Directories behind directories are nothing but directories. -/
theorem trans {t'' : FileTree} (h : OnlyDirectories t t') (h' : OnlyDirectories t' t'') :
    OnlyDirectories t t'' where
  work := h'.work.trans h.work
  standing := by
    intro place
    rcases h'.standing place with same' | ⟨new', directory⟩
    · rw [same']
      exact h.standing place
    · rcases h.standing place with same | ⟨new, directory'⟩
      · exact .inr ⟨same ▸ new', directory⟩
      · rw [directory'] at new'
        cases new'

/-- A tree with nothing but new directories has grown. -/
theorem grows (h : OnlyDirectories t t') : t.Grows t' where
  work := h.work
  kept := by
    intro place node there
    rcases h.standing place with same | ⟨new, -⟩
    · exact ⟨node, same.trans there, rfl⟩
    · rw [new] at there
      cases there

/-- What stands in the second tree and is no directory stood in the first. -/
theorem of_standing (h : OnlyDirectories t t') {node : Node} (there : t'.standing place = some node)
    (other : node ≠ .directory []) : t.standing place = some node := by
  rcases h.standing place with same | ⟨-, directory⟩
  · exact same ▸ there
  · rw [directory] at there
    exact absurd (Option.some.inj there).symm other

end OnlyDirectories

/-- A free slot is in a directory, under a name that is free. -/
theorem exists_of_freeSlot {e : List Name × Name} (slot : t.freeSlot p = .ok e) :
    ∃ entries, t.root.descend e.1 = some (.directory entries) ∧ Node.named? e.2 entries = none := by
  obtain ⟨start, -, slot⟩ := Json.bind_eq_ok_iff.1 slot
  split at slot
  · cases slot
  · next before name _ =>
    obtain ⟨⟨place, entries⟩, reached, slot⟩ := Json.bind_eq_ok_iff.1 slot
    dsimp only at slot
    split at slot
    · cases slot
    · next taken =>
      split at slot
      · cases slot
      · obtain rfl := Except.ok.inj slot
        have missing : Node.named? name entries = none := by
          cases found : Node.named? name entries with
          | none => rfl
          | some next => simp [found] at taken
        exact ⟨entries, (follow_of_followToDirectory reached).2, missing⟩

/-- Making a directory adds nothing else. -/
theorem makeDirectory_only (made : t.makeDirectory p = .ok t') : OnlyDirectories t t' := by
  obtain ⟨⟨place, name⟩, slot, made⟩ := Json.bind_eq_ok_iff.1 made
  obtain rfl := Except.ok.inj made
  obtain ⟨entries, here, missing⟩ := exists_of_freeSlot slot
  have free : t.standing (place ++ [name]) = none := by
    rw [standing_concat here, missing, Option.map_none]
  have fresh : t.standing (place ++ [name]) ≠ some (.directory []) := by
    rw [free]
    exact nofun
  refine ⟨rfl, fun other => ?_⟩
  rw [standing_alter here fresh rfl]
  by_cases same : other = place ++ [name]
  · subst same
    exact .inr ⟨free, Function.update_self _ _ _⟩
  · exact .inl (Function.update_of_ne same _ _)

/-- Making directories adds nothing else. -/
theorem makeDirectories_only {steps : Nat} (made : makeDirectories steps t p = .ok t') :
    OnlyDirectories t t' := by
  induction steps generalizing t p t' with
  | zero =>
    obtain rfl := Except.ok.inj made
    exact .refl t
  | succ steps ih =>
    rw [makeDirectories] at made
    split at made
    · obtain rfl := Except.ok.inj made
      exact .refl t
    · split at made
      · next t₁ done =>
        obtain rfl := Except.ok.inj made
        exact makeDirectory_only done
      · split at made
        · cases made
        · next above _ =>
          obtain ⟨t₁, higher, made⟩ := Json.bind_eq_ok_iff.1 made
          refine (ih higher).trans ?_
          split at made
          · next t₂ done =>
            obtain rfl := Except.ok.inj made
            exact makeDirectory_only done
          · split at made
            · obtain rfl := Except.ok.inj made
              exact .refl t₁
            · cases made
      · split at made
        · obtain rfl := Except.ok.inj made
          exact .refl t
        · cases made

theorem exists_start_of_isDirectory (there : t.isDirectory p) : ∃ start, t.start p = .ok start := by
  obtain ⟨entries, leads⟩ := isDirectory_iff.1 there
  obtain ⟨start, -, begun, -⟩ := node_eq_ok_iff.1 leads
  exact ⟨start, begun⟩

theorem exists_start_of_makeDirectory (made : t.makeDirectory p = .ok t') :
    ∃ start, t.start p = .ok start := by
  obtain ⟨e, slot, -⟩ := Json.bind_eq_ok_iff.1 made
  obtain ⟨start, begun, -⟩ := Json.bind_eq_ok_iff.1 slot
  exact ⟨start, begun⟩

/-- Directories are made only at a path that can be followed. -/
theorem exists_start_of_makeDirectories {steps : Nat} (filled : p ≠ Path.empty)
    (made : makeDirectories (steps + 1) t p = .ok t') : ∃ start, t.start p = .ok start := by
  rw [makeDirectories, if_neg (by simpa using filled)] at made
  split at made
  · next t₁ done => exact exists_start_of_makeDirectory done
  · split at made
    · cases made
    · next above _ =>
      obtain ⟨t₁, higher, made⟩ := Json.bind_eq_ok_iff.1 made
      rw [← (makeDirectories_only higher).grows.start p]
      split at made
      · next t₂ done => exact exists_start_of_makeDirectory done
      · split at made
        · next there => exact exists_start_of_isDirectory there
        · cases made
  · split at made
    · next there => exact exists_start_of_isDirectory there
    · cases made

/-- The last of the directories that are made in an empty one is empty. -/
theorem empty_of_ensureDirectory (proper : t.Proper)
    (empty : t.node base = .ok (.directory [])) (more : way ≠ []) (names : ∀ n ∈ way, n.Proper)
    (ensured : t.ensureDirectory (way.foldl Path.child base) = .ok t') :
    t'.Proper ∧ t'.node (way.foldl Path.child base) = .ok (.directory []) := by
  obtain ⟨start, spot, begun, followed, root⟩ := node_eq_ok_iff.1 empty
  have located := locate_eq_ok_iff.2 ⟨start, begun, followed⟩
  have here : t.standing spot = some (.directory []) := standing_directory_iff.2 ⟨[], root⟩
  have clear := clearTo_of_empty root way
  have named := Path.endsInName_below base more fun n member => (names n member).ordinary
  obtain ⟨_, begun'⟩ := exists_start_of_makeDirectories named.ne_empty ensured
  have short : fits base way := decide_eq_true (start_eq_ok_iff.1 begun').2.2.1
  have enough := Path.length_lt_segments base fun n member => (names n member).ne_empty
  obtain ⟨t₁, done, made⟩ :=
    makeDirectories_below proper located here names named short clear enough
  obtain rfl : t₁ = t' := Except.ok.inj (done.symm.trans ensured)
  have last : t₁.root.descend (spot ++ way) = some (.directory []) := by
    apply descend_of_nothing_below
    · rw [made.standing, if_pos ⟨List.prefix_append _ _, List.prefix_rfl⟩]
    · intro n
      obtain ⟨m, rest, cut⟩ := List.exists_cons_of_ne_nil (l := way ++ [n]) (by simp)
      rw [made.standing, List.append_assoc, if_neg fun inside => not_prefix_of_further inside.2, cut]
      exact standing_below_empty root m rest
  have whole := last
  rw [Node.descend_append] at whole
  obtain ⟨node, above, down⟩ := Option.bind_eq_some_iff.1 whole
  have proper' := made.proper proper here names
  have leads := locate_below proper' ((made.grows clear).locate located) above down (by simp)
    (of_decide_eq_true short)
  exact ⟨proper', node_of_locate leads last⟩

/-- A file is put into the directory that the way leads to. -/
theorem exists_of_fileSlot {e : List Name × Name} (real : n.isIdle = false)
    (up : n ≠ Name.dotDot) (slot : t.fileSlot links start (way ++ [n]) = .ok e) :
    ∃ place entries, t.follow true links start way = .ok place ∧
      t.root.descend place = some (.directory entries) ∧ n.octets.length ≤ longestName ∧
      ∀ inside, Node.named? n entries ≠ some (.directory inside) := by
  rw [fileSlot_concat _ _ _ _ real up] at slot
  cases reached : t.followToDirectory links start way with
  | error err => simp [reached, Except.bind] at slot
  | ok e' =>
    obtain ⟨place, entries⟩ := e'
    obtain ⟨followed, here⟩ := follow_of_followToDirectory reached
    simp only [reached, Except.bind] at slot
    split at slot
    · cases slot
    · next long =>
      refine ⟨place, entries, followed, here, Nat.le_of_not_lt long, fun inside found => ?_⟩
      simp [found] at slot

theorem exists_of_writeFile (written : t.writeFile p contents = .ok t') :
    ∃ start e, t.start p = .ok start ∧ t.fileSlot linkLimit start p.segments = .ok e := by
  obtain ⟨start, begun, written⟩ := Json.bind_eq_ok_iff.1 written
  obtain ⟨e, slot, -⟩ := Json.bind_eq_ok_iff.1 written
  exact ⟨start, e, begun, slot⟩

/-- A file is only written where there is room for it, as long as there are no links below the
path. -/
theorem room_of_writeFile (located : t.locate true base = .ok spot)
    (names : ∀ m ∈ way ++ [n], m.Ordinary)
    (plain : ∀ front target, t.standing (spot ++ front) ≠ some (.link target))
    (written : t.writeFile ((way ++ [n]).foldl Path.child base) contents = .ok t') :
    (∀ m ∈ way ++ [n], m.Proper) ∧ fits base (way ++ [n]) ∧
      t.standing (spot ++ way) = some (.directory []) ∧
      (t.standing (spot ++ (way ++ [n])) = none ∨
        ∃ old, t.standing (spot ++ (way ++ [n])) = some (.file old)) := by
  have name : n.Ordinary := names n (by simp)
  have named : ∀ m ∈ way ++ [n], m ≠ Name.empty := fun m member => (names m member).ne_empty
  have cut := Path.segments_below (p := base) named (by simp)
  obtain ⟨start, begun, followed⟩ := locate_eq_ok_iff.1 located
  obtain ⟨left, onwards⟩ := follow_parts followed
  obtain ⟨start', e, begun', slot⟩ := exists_of_writeFile written
  obtain ⟨null, -, short, same'⟩ := start_eq_ok_iff.1 begun'
  obtain ⟨-, filled, -, same⟩ := start_eq_ok_iff.1 begun
  obtain rfl : start' = start := by
    rw [same', same, Path.isAbsolute_below filled named (by simp)]
  rw [cut, ← List.append_assoc] at slot
  obtain ⟨place, entries, reached, here, last, free⟩ := exists_of_fileSlot name.idle name.up slot
  rw [onwards] at reached
  obtain ⟨rfl, others⟩ := eq_of_follow_plain
    (fun m member => names m (List.mem_append_left _ member)) plain reached
  refine ⟨fun m member => ?_, decide_eq_true short, standing_directory_iff.2 ⟨entries, here⟩, ?_⟩
  · have ordinary := names m member
    have length : m.octets.length ≤ longestName := by
      rcases List.mem_append.1 member with earlier | same
      · exact others m earlier
      · obtain rfl := List.mem_singleton.1 same
        exact last
    refine ⟨ordinary.idle, ordinary.up, length, ordinary.slash, fun zero => null ?_⟩
    rw [Path.mem_octets_iff _ (by decide), cut]
    exact ⟨m, List.mem_append_right _ member, zero⟩
  · have there := standing_concat here n
    rw [List.append_assoc] at there
    cases found : Node.named? n entries with
    | none => exact .inl (by rw [there, found, Option.map_none])
    | some next =>
      rw [found, Option.map_some] at there
      cases next with
      | file old => exact .inr ⟨old, there⟩
      | directory inside => exact absurd found (free inside)
      | link target => exact absurd there (plain _ target)

end FileTree
end DataShelf.Files
