import DataShelf.Fixture
import DataShelf.Proofs.WritesBelow

/-!
# Files of a fixture

What is written to a fixture goes below its data directory. A file is written exactly if there is
room for it (`exists_store`, `room_of_store`), and a fixture in whose data directory certain files
stand and nothing else (`Keeps`) has one file more then (`Keeps.store`). So after any number of files
these stand there, and nothing else, in whatever order they were written (`Keeps.storeAll`). A fixture
that is created in an empty directory begins without any (`empty_of_create`).
-/

namespace DataShelf
set_option autoImplicit false

open Files (Name Node Path FileTree)

namespace Files.FileTree

variable {t t' : FileTree} {base : Path} {spot way : List Name} {contents : List UInt8}
  {files : List (List Name × List UInt8)}

/-- Below a place stand these files, the directories on the way to them, and nothing else. -/
structure HoldsOnly (t : FileTree) (spot : List Name) (files : List (List Name × List UInt8)) :
    Prop where
  held : ∀ e ∈ files, t.standing (spot ++ e.1) = some (.file e.2)
  only : ∀ way node, t.standing (spot ++ way) = some node →
    (∃ contents, node = .file contents ∧ (way, contents) ∈ files) ∨
    node = .directory [] ∧ (way = [] ∨ ∃ e ∈ files, way <+: e.1)

namespace HoldsOnly

theorem plain (h : t.HoldsOnly spot files) (front : List Name) (target : Path) :
    t.standing (spot ++ front) ≠ some (.link target) := by
  intro there
  rcases h.only front _ there with ⟨_, same, -⟩ | ⟨same, -⟩ <;> cases same

/-- One file more stands there when it was made. -/
theorem fileMade (h : t.HoldsOnly spot files) (clear : t.ClearTo spot way.dropLast)
    (made : FileMade spot way contents t t') (fresh : way ∉ files.map (·.1)) :
    t'.HoldsOnly spot ((way, contents) :: files) where
  held := by
    intro e member
    rw [made.standing]
    rcases List.mem_cons.1 member with rfl | member
    · rw [if_pos rfl]
    · have other : e.1 ≠ way := fun same => fresh (List.mem_map.2 ⟨e, member, same⟩)
      have held := h.held e member
      rw [if_neg (by simpa using other), if_neg, held]
      -- A file on the way would have been in the way.
      rintro ⟨-, before⟩
      have shorter := prefix_dropLast ((List.prefix_append_right_inj spot).1 before) other
      rcases clear e.1 shorter with none | directory
      · rw [none] at held
        cases held
      · rw [directory] at held
        cases held
  only := by
    intro way' node there
    rw [made.standing] at there
    split at there
    · next same =>
      obtain rfl : way' = way := by simpa using same
      obtain rfl := Option.some.inj there
      exact .inl ⟨contents, rfl, List.mem_cons_self⟩
    · split at there
      · next inside =>
        obtain rfl := Option.some.inj there
        have before := (List.prefix_append_right_inj spot).1 inside.2
        exact .inr ⟨rfl, .inr ⟨_, List.mem_cons_self, before⟩⟩
      · rcases h.only way' node there with ⟨old, same, member⟩ | ⟨same, above⟩
        · exact .inl ⟨old, same, List.mem_cons_of_mem _ member⟩
        · refine .inr ⟨same, above.imp id ?_⟩
          rintro ⟨e, member, before⟩
          exact ⟨e, List.mem_cons_of_mem _ member, before⟩

end HoldsOnly

end Files.FileTree

namespace Fixture

variable {f f' : Fixture} {p : Path} {spot way : List Name} {contents : List UInt8}
  {files : List (List Name × List UInt8)}

/-! ### One file -/

/-- Writes octets to a file, with all directories that lead to it. -/
def store (f : Fixture) (p : Path) (contents : List UInt8) : Except Fault Fixture := do
  let f ← f.ensureParent p
  match f.files.writeFile p contents with
  | .ok files => .ok { f with files }
  | .error e => .error (.file p e)

/-- A text is written by writing its octets. -/
theorem store_octets (f : Fixture) (p : Path) (text : String) :
    f.store p (Text.octets text) = (f.writeFile p text).1.map fun _ => (f.writeFile p text).2 := by
  unfold writeFile store
  cases f.ensureParent p with
  | error fault => rfl
  | ok f₁ =>
    cases written : f₁.files.writeFile p (Text.octets text) <;>
      simp [written, bind, Except.bind, Except.map]

/-- A file is stored by making the directories above it and writing it there. -/
theorem store_eq_ok_iff {above : Path} (parent : p.parent? = some above) :
    f.store p contents = .ok f' ↔ f'.directory = f.directory ∧ ∃ t,
      f.files.ensureDirectory above = .ok t ∧ t.writeFile p contents = .ok f'.files := by
  obtain ⟨files', directory'⟩ := f'
  unfold store ensureParent
  simp only [parent]
  cases ensured : f.files.ensureDirectory above with
  | error e => simp [bind, Except.bind]
  | ok t =>
    cases written : t.writeFile p contents with
    | error e => simp [written, bind, Except.bind]
    | ok t' =>
      simp [written, bind, Except.bind, Fixture.mk.injEq, and_comm, eq_comm]

/-- The data directory of a fixture leads to a place below which these files stand, and nothing
else. -/
structure Keeps (f : Fixture) (spot : List Name) (files : List (List Name × List UInt8)) : Prop where
  proper : f.files.Proper
  located : f.files.locate true f.dataDirectory = .ok spot
  here : f.files.standing spot = some (.directory [])
  holds : f.files.HoldsOnly spot files
  fits : ∀ e ∈ files, FileTree.fits f.dataDirectory e.1

/-- The names on the way to the rendered data. -/
def renderedNames : List Name := Catalog.Project.renderedWay.map Name.ofString

theorem renderedNames_proper : ∀ n ∈ renderedNames, n.Proper := by decide

/-- The data directory lies below the directory of the fixture, under the names of rendered data. -/
theorem dataDirectory_eq (f : Fixture) :
    f.dataDirectory = renderedNames.foldl Path.child f.directory := by
  have relative :
      (Path.ofString ("/".intercalate Catalog.Project.renderedWay)).isAbsolute = false := by decide
  have spelled : (Path.ofString ("/".intercalate Catalog.Project.renderedWay)).segments =
      renderedNames := by decide
  have below : (renderedNames.foldl Path.child f.directory).segments =
      f.directory.parts ++ renderedNames := Path.segments_below (by decide) (by decide)
  have joined := Path.segments_joinText (p := f.directory) relative
  rw [spelled, ← below] at joined
  exact congrArg Files.Path.mk joined

theorem dataDirectory_of_same (same : f'.directory = f.directory) :
    f'.dataDirectory = f.dataDirectory := by
  rw [dataDirectory, dataDirectory, same]

theorem dataDirectory_endsInName (f : Fixture) : f.dataDirectory.EndsInName := by
  rw [dataDirectory_eq]
  exact Path.endsInName_below _ (by decide) fun n member => (renderedNames_proper n member).ordinary

section Store

variable {n : Name} (names : ∀ m ∈ way ++ [n], m.Ordinary)

include names

theorem parent?_below (f : Fixture) : ((way ++ [n]).foldl Path.child f.dataDirectory).parent? =
    some (way.foldl Path.child f.dataDirectory) := by
  have ends := f.dataDirectory_endsInName.below fun m member =>
    names m (List.mem_append_left _ member)
  rw [List.foldl_append]
  exact ends.parent?_child (names n (by simp)).idle

variable (keeps : f.Keeps spot files)

include keeps

/-- A file is written where there is room for it. -/
theorem exists_store (room : f.files.RoomFor f.dataDirectory spot (way ++ [n]))
    (contents : List UInt8) : ∃ f',
      f.store ((way ++ [n]).foldl Path.child f.dataDirectory) contents = .ok f' ∧
      FileTree.FileMade spot (way ++ [n]) contents f.files f'.files := by
  have parent := parent?_below names f
  have enough := Path.length_lt_segments f.dataDirectory fun m member =>
    (names m (List.mem_append_left _ member)).ne_empty
  obtain ⟨t₁, t', ensured, written, made⟩ := FileTree.exists_fileMade f.dataDirectory_endsInName
    keeps.proper keeps.located keeps.here room contents enough
  exact ⟨⟨t', f.directory⟩, (store_eq_ok_iff parent).2 ⟨rfl, t₁, ensured, written⟩, made⟩

/-- A file is only written where there is room for it. -/
theorem room_of_store
    (stored : f.store ((way ++ [n]).foldl Path.child f.dataDirectory) contents = .ok f') :
    f.files.RoomFor f.dataDirectory spot (way ++ [n]) := by
  obtain ⟨-, t, ensured, written⟩ := (store_eq_ok_iff (parent?_below names f)).1 stored
  have only : FileTree.OnlyDirectories f.files t := FileTree.makeDirectories_only ensured
  have plain (front : List Name) (target : Path) :
      t.standing (spot ++ front) ≠ some (.link target) := fun there =>
    keeps.holds.plain front target (only.of_standing there nofun)
  obtain ⟨proper, short, above, free⟩ :=
    FileTree.room_of_writeFile (only.grows.locate keeps.located) names plain written
  refine ⟨proper, short, fun front before => ?_, ?_⟩
  · rw [List.dropLast_concat] at before
    obtain ⟨rest, rfl⟩ := before
    have there : t.standing (spot ++ front) = some (.directory []) := by
      cases rest with
      | nil => simpa using above
      | cons m rest =>
        rw [← List.append_assoc] at above
        exact FileTree.directory_of_standing (List.cons_ne_nil m rest) above
    rcases only.standing (spot ++ front) with same | ⟨new, -⟩
    · exact .inr (same ▸ there)
    · exact .inl new
  · rcases only.standing (spot ++ (way ++ [n])) with same | ⟨new, -⟩
    · rwa [same] at free
    · exact .inl new

/-- **One file more.** A file that is written stands in the data directory besides those that stood
there. -/
theorem Keeps.store (fresh : way ++ [n] ∉ files.map (·.1))
    (stored : f.store ((way ++ [n]).foldl Path.child f.dataDirectory) contents = .ok f') :
    f'.directory = f.directory ∧ f'.Keeps spot ((way ++ [n], contents) :: files) := by
  have room := room_of_store names keeps stored
  have kept := ((store_eq_ok_iff (parent?_below names f)).1 stored).1
  have root := dataDirectory_of_same kept
  obtain ⟨f'', stored', made⟩ := exists_store names keeps room contents
  obtain rfl : f'' = f' := Except.ok.inj (stored'.symm.trans stored)
  refine ⟨kept, ?_⟩
  exact {
    proper := made.proper keeps.proper keeps.here room.names
    located := root ▸ (made.grows room).locate keeps.located
    here := (made.grows room).directory keeps.here
    holds := keeps.holds.fileMade room.clear made fresh
    fits := by
      rw [root]
      exact List.forall_mem_cons.2 ⟨room.short, keeps.fits⟩ }

end Store

/-! ### Many files -/

/-- Writes files at ways below the data directory, one after the other. -/
def storeAll (f : Fixture) (files : List (List Name × List UInt8)) : Except Fault Fixture :=
  files.foldlM (fun f e => f.store (e.1.foldl Path.child f.dataDirectory) e.2) f

/-- **Many files.** Files that are written at distinct ways stand in the data directory, and nothing
else that did not stand there before. -/
theorem Keeps.storeAll {more : List (List Name × List UInt8)} (keeps : f.Keeps spot files)
    (names : ∀ e ∈ more, e.1 ≠ [] ∧ ∀ m ∈ e.1, m.Ordinary)
    (distinct : ((more.reverse ++ files).map (·.1)).Nodup) (stored : f.storeAll more = .ok f') :
    f'.directory = f.directory ∧ f'.Keeps spot (more.reverse ++ files) := by
  induction more generalizing f files with
  | nil =>
    obtain rfl := Except.ok.inj stored
    exact ⟨rfl, keeps⟩
  | cons e more ih =>
    obtain ⟨way, contents⟩ := e
    obtain ⟨⟨filled, ordinary⟩, later⟩ := List.forall_mem_cons.1 names
    obtain ⟨front, n, rfl⟩ := (List.eq_nil_or_concat' way).resolve_left filled
    rw [Fixture.storeAll, List.foldlM_cons] at stored
    obtain ⟨f₁, first, stored⟩ := Json.bind_eq_ok_iff.1 stored
    rw [List.reverse_cons, List.append_assoc, List.singleton_append] at distinct ⊢
    have fresh : front ++ [n] ∉ files.map (·.1) := by
      rw [List.map_append, List.nodup_append] at distinct
      exact (List.nodup_cons.1 distinct.2.1).1
    obtain ⟨kept, keeps₁⟩ := keeps.store ordinary fresh first
    obtain ⟨kept', keeps'⟩ := ih keeps₁ later distinct stored
    exact ⟨kept'.trans kept, keeps'⟩

/-- There is room for a file beside others if none of their ways leads on from another. -/
theorem Keeps.room (keeps : f.Keeps spot files) (filled : way ≠ []) (names : ∀ m ∈ way, m.Proper)
    (short : FileTree.fits f.dataDirectory way)
    (apart : ∀ e ∈ files, ¬e.1 <+: way ∧ ¬way <+: e.1) :
    f.files.RoomFor f.dataDirectory spot way where
  names := names
  short := short
  clear := by
    intro front before
    cases there : f.files.standing (spot ++ front) with
    | none => exact .inl rfl
    | some node =>
      rcases keeps.holds.only front node there with ⟨contents, -, member⟩ | ⟨rfl, -⟩
      · exact absurd (before.trans (List.dropLast_prefix way)) (apart _ member).1
      · exact .inr rfl
  free := by
    cases there : f.files.standing (spot ++ way) with
    | none => exact .inl rfl
    | some node =>
      rcases keeps.holds.only way node there with ⟨contents, rfl, -⟩ | ⟨-, above⟩
      · exact .inr ⟨contents, rfl⟩
      · rcases above with empty | ⟨e, member, before⟩
        · exact absurd empty filled
        · exact absurd before (apart e member).2

/-- Files are written at ways of which none leads on from another, if they can be followed. -/
theorem Keeps.exists_storeAll {more : List (List Name × List UInt8)} (keeps : f.Keeps spot files)
    (names : ∀ e ∈ more, e.1 ≠ [] ∧ ∀ m ∈ e.1, m.Proper)
    (short : ∀ e ∈ more, FileTree.fits f.dataDirectory e.1)
    (apart : (more.reverse ++ files).Pairwise fun e e' => ¬e.1 <+: e'.1 ∧ ¬e'.1 <+: e.1) :
    ∃ f', f.storeAll more = .ok f' := by
  induction more generalizing f files with
  | nil => exact ⟨f, rfl⟩
  | cons e more ih =>
    obtain ⟨way, contents⟩ := e
    obtain ⟨⟨filled, proper⟩, later⟩ := List.forall_mem_cons.1 names
    obtain ⟨here, further⟩ := List.forall_mem_cons.1 short
    rw [List.reverse_cons, List.append_assoc, List.singleton_append] at apart
    have others := (List.pairwise_cons.1 (List.pairwise_append.1 apart).2.1).1
    have room := keeps.room filled proper here fun e member =>
      ⟨(others e member).2, (others e member).1⟩
    obtain ⟨front, n, rfl⟩ := (List.eq_nil_or_concat' way).resolve_left filled
    have ordinary : ∀ m ∈ front ++ [n], m.Ordinary := fun m member => (proper m member).ordinary
    have fresh : front ++ [n] ∉ files.map (·.1) := by
      intro member
      obtain ⟨e, among, same⟩ := List.mem_map.1 member
      exact (others e among).1 (same ▸ List.prefix_rfl)
    obtain ⟨f₁, stored, -⟩ := exists_store ordinary keeps room contents
    obtain ⟨kept, keeps₁⟩ := keeps.store ordinary fresh stored
    obtain ⟨f', all⟩ := ih keeps₁ later (dataDirectory_of_same kept ▸ further) apart
    refine ⟨f', ?_⟩
    rw [Fixture.storeAll, List.foldlM_cons]
    exact Json.bind_eq_ok_iff.2 ⟨f₁, stored, all⟩

/-! ### Fixtures without files -/

/-- A fixture whose data directory is empty keeps no files there. -/
theorem keeps_of_empty (proper : f.files.Proper)
    (empty : f.files.node f.dataDirectory = .ok (.directory [])) : ∃ spot, f.Keeps spot [] := by
  obtain ⟨start, spot, begun, followed, here⟩ := Files.FileTree.node_eq_ok_iff.1 empty
  refine ⟨spot, proper, FileTree.locate_eq_ok_iff.2 ⟨start, begun, followed⟩,
    FileTree.standing_directory_iff.2 ⟨[], here⟩, ⟨nofun, fun way node there => .inr ?_⟩, nofun⟩
  cases way with
  | nil =>
    rw [List.append_nil, FileTree.standing, here, Option.map_some] at there
    exact ⟨(Option.some.inj there).symm, .inl rfl⟩
  | cons n way =>
    rw [FileTree.standing_below_empty here] at there
    cases there

/-- A fixture is created in an empty directory if the way to the rendered data can be followed. -/
theorem exists_create {t : FileTree} {directory : Path} (proper : t.Proper)
    (empty : t.node directory = .ok (.directory []))
    (short : FileTree.fits directory renderedNames) :
    ∃ f, create t directory = .ok f ∧ f.directory = directory := by
  obtain ⟨start, spot, begun, followed, held⟩ := FileTree.node_eq_ok_iff.1 empty
  have located := FileTree.locate_eq_ok_iff.2 ⟨start, begun, followed⟩
  have here : t.standing spot = some (.directory []) := FileTree.standing_directory_iff.2 ⟨[], held⟩
  have named : (renderedNames.foldl Path.child directory).EndsInName :=
    Path.endsInName_below directory (by decide) fun n member =>
      (renderedNames_proper n member).ordinary
  have root : dataDirectory ⟨t, directory⟩ = renderedNames.foldl Path.child directory :=
    dataDirectory_eq ⟨t, directory⟩
  have enough := Path.length_lt_segments directory fun n member =>
    (renderedNames_proper n member).ne_empty
  obtain ⟨t', made, -⟩ := FileTree.makeDirectories_below proper located here renderedNames_proper
    named short (FileTree.clearTo_of_empty held renderedNames) enough
  refine ⟨⟨t', directory⟩, ?_, rfl⟩
  have ensured : t.ensureDirectory (dataDirectory ⟨t, directory⟩) = .ok t' := by
    rw [root]
    exact made
  simp only [create, ensured]

/-- A fixture that is created in an empty directory has an empty data directory. -/
theorem empty_of_create {t : FileTree} {directory : Path} (proper : t.Proper)
    (empty : t.node directory = .ok (.directory [])) (created : create t directory = .ok f) :
    f.files.Proper ∧ f.files.node f.dataDirectory = .ok (.directory []) := by
  obtain ⟨t', ensured, rfl⟩ : ∃ t', t.ensureDirectory (dataDirectory ⟨t, directory⟩) = .ok t' ∧
      f = ⟨t', directory⟩ := by
    unfold create at created
    cases ensured : t.ensureDirectory (dataDirectory ⟨t, directory⟩) with
    | error e => simp [ensured] at created
    | ok t' => exact ⟨t', rfl, by simpa [ensured] using created.symm⟩
  rw [dataDirectory_eq] at ensured
  show t'.Proper ∧ t'.node (dataDirectory ⟨t', directory⟩) = _
  rw [dataDirectory_eq]
  exact FileTree.empty_of_ensureDirectory proper empty (by decide) renderedNames_proper ensured

end Fixture
end DataShelf
