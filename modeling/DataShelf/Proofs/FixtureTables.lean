import DataShelf.Proofs.SingleTable

/-!
# Tables of fixtures

What is done to a fixture to give it a table (`Deed`) writes one file, at a way of its own below the
data directory (`perform_eq`). Whatever the order, in the end these files stand there and nothing else
(`keeps_of_deeds`), so the fixture is a project with one table, and its schema is read back as it was
written (`schema_read_back`). Nothing but names that no directory can hold, paths that are too long
and a source with the name of the manifest keeps it from being done (`exists_perform`).
-/

namespace DataShelf.Fixture
set_option autoImplicit false

open Catalog (dataName schemaName manifestName oneTable dataName_ordinary schemaName_ordinary)
open Files (Name Path FileTree)

/-! ### Deeds -/

/-- What is done to give a fixture a table: its schema or a manifest is written, or the engine makes
its data file. -/
inductive Deed where
  | schema (fields : List (String × String))
  | data (contents : List UInt8)
  | manifest (j : Json)

variable (source table : String)

/-- Does something for a table of a fixture. -/
def Deed.perform (f : Fixture) : Deed → Except Fault Fixture
  | .schema fields =>
    let (outcome, f) := f.writeSchema source table fields
    outcome.map fun _ => f
  | .data contents => f.store (f.dataFile source table) contents
  | .manifest j =>
    let (outcome, f) := f.writeManifest j
    outcome.map fun _ => f

/-- The file that is written: the way to it below the data directory, and its contents. -/
def Deed.file : Deed → List Name × List UInt8
  | .schema fields =>
    ([.ofString source, .ofString table, schemaName table],
      Text.octets (Json.pretty (schemaJson fields)))
  | .data contents => ([.ofString source, .ofString table, dataName table], contents)
  | .manifest j => ([manifestName], Text.octets (Json.pretty j))

variable {f f' : Fixture} {source table : String} {deeds : List Deed}

theorem outcome_writeJson (f : Fixture) (p : Path) (j : Json) :
    ((f.writeJson p j).1.map fun _ => (f.writeJson p j).2) =
      f.store p (Text.octets (Json.pretty j)) := by
  rw [store_octets, writeJson]
  obtain ⟨outcome, f₁⟩ := f.writeFile p (Json.pretty j)
  cases outcome <;> rfl

theorem dataFile_eq (f : Fixture) (source table : String) :
    f.dataFile source table = Catalog.Manifest.dataPath f.dataDirectory source table := by
  have ending : table ++ ".parquet" = table ++ "." ++ Catalog.parquetExtension := by
    rw [String.append_assoc]
    rfl
  rw [dataFile, ending]
  rfl

section Names

variable (outer : Path.IsComponent source) (inner : Path.IsComponent table)

include outer inner

/-- Each deed writes its file. -/
theorem perform_eq (f : Fixture) (d : Deed) : d.perform source table f =
    f.store ((d.file source table).1.foldl Path.child f.dataDirectory) (d.file source table).2 := by
  cases d with
  | schema fields =>
    have path := Catalog.Manifest.schemaPath_of_parts outer.part inner.part f.dataDirectory
    show _ = f.store ([_, _, schemaName table].foldl Path.child f.dataDirectory) _
    rw [schemaName, ← path]
    exact outcome_writeJson f _ _
  | data contents =>
    have path := Catalog.Manifest.dataPath_of_parts outer.part inner.part f.dataDirectory
    show _ = f.store ([_, _, dataName table].foldl Path.child f.dataDirectory) _
    rw [dataName, ← path, ← dataFile_eq]
    rfl
  | manifest j =>
    show _ = f.store (f.dataDirectory.child manifestName) _
    rw [← Catalog.manifestPath_eq]
    exact outcome_writeJson f _ _

theorem foldlM_perform (f : Fixture) (deeds : List Deed) :
    deeds.foldlM (Deed.perform source table) f =
      f.storeAll (deeds.map (Deed.file source table)) := by
  rw [storeAll, List.foldlM_map]
  congr 1
  funext f d
  exact perform_eq outer inner f d

end Names

/-! ### Ways -/

/-- The names on the way to a file lead further down. -/
theorem file_ordinary (outer : Path.IsComponent source) (inner : Path.IsComponent table) (d : Deed) :
    (d.file source table).1 ≠ [] ∧ ∀ n ∈ (d.file source table).1, n.Ordinary := by
  have above := outer.ordinary
  have below := inner.ordinary
  cases d with
  | schema fields =>
    refine ⟨List.cons_ne_nil _ _, ?_⟩
    simpa [Deed.file] using ⟨above, below, schemaName_ordinary inner.part⟩
  | data contents =>
    refine ⟨List.cons_ne_nil _ _, ?_⟩
    simpa [Deed.file] using ⟨above, below, dataName_ordinary inner.part⟩
  | manifest j =>
    refine ⟨List.cons_ne_nil _ _, ?_⟩
    have name : manifestName.Ordinary := ⟨by decide, by decide, by decide⟩
    simpa [Deed.file] using name

/-- The deeds that give a fixture a table: its data and its schema, and maybe a manifest. -/
def allDeeds (fields : List (String × String)) (contents : List UInt8) (manifest : Option Json) :
    List Deed :=
  .schema fields :: .data contents :: (manifest.map Deed.manifest).toList

variable {fields : List (String × String)} {contents : List UInt8} {manifest : Option Json}

/-- Whatever the order of the writes, the files are those of the table. -/
theorem files_perm (source table : String)
    (order : deeds.Perm (allDeeds fields contents manifest)) :
    ((deeds.map (Deed.file source table)).reverse ++ []).Perm
      (oneTable source table contents (Text.octets (Json.pretty (schemaJson fields)))
        (manifest.map fun j => Text.octets (Json.pretty j))) := by
  rw [List.append_nil]
  refine (List.reverse_perm _).trans ((order.map _).trans ?_)
  cases manifest with
  | none => exact .swap _ _ _
  | some j => exact .swap _ _ _

/-- No two of the files are the same. -/
theorem oneTable_distinct (data schema : List UInt8) (manifest : Option (List UInt8)) :
    ((oneTable source table data schema manifest).map (·.1)).Nodup := by
  have other : dataName table ≠ schemaName table := Catalog.dataName_ne_schemaName
  cases manifest <;> simp [oneTable, other]

/-- After all deeds, in whatever order, the fixture holds the files of the table and nothing else. -/
theorem keeps_of_deeds (proper : f.files.Proper)
    (empty : f.files.node f.dataDirectory = .ok (.directory []))
    (outer : Path.IsComponent source) (inner : Path.IsComponent table)
    (order : deeds.Perm (allDeeds fields contents manifest))
    (done : deeds.foldlM (Deed.perform source table) f = .ok f') : ∃ spot files,
      f'.Keeps spot files ∧
      files.Perm (oneTable source table contents (Text.octets (Json.pretty (schemaJson fields)))
        (manifest.map fun j => Text.octets (Json.pretty j))) := by
  obtain ⟨spot, keeps⟩ := keeps_of_empty proper empty
  rw [foldlM_perform outer inner] at done
  have files := files_perm source table order
  refine ⟨spot, _, (keeps.storeAll ?_ ?_ done).2, files⟩
  · intro e member
    obtain ⟨d, -, rfl⟩ := List.mem_map.1 member
    exact file_ordinary outer inner d
  · exact ((files.map _).nodup_iff).2 (oneTable_distinct _ _ _)

/-- None of the files lies below another. -/
theorem oneTable_apart (aside : manifest.isSome → source ≠ Catalog.Manifest.fileName)
    (data schema : List UInt8) (text : Json → List UInt8) :
    (oneTable source table data schema (manifest.map text)).Pairwise fun e e' =>
      ¬e.1 <+: e'.1 ∧ ¬e'.1 <+: e.1 := by
  have other : dataName table ≠ schemaName table := Catalog.dataName_ne_schemaName
  cases manifest with
  | none => simp [oneTable, List.cons_prefix_cons, other, other.symm]
  | some j =>
    have outer : manifestName ≠ Name.ofString source := fun same =>
      aside rfl (Name.ofString_injective same).symm
    simp [oneTable, List.cons_prefix_cons, other, other.symm, outer, outer.symm]

/-- The deeds can be done, in whatever order, if a directory can hold the names, the paths can be
followed, and no source stands where the manifest goes. -/
theorem exists_perform (proper : f.files.Proper)
    (empty : f.files.node f.dataDirectory = .ok (.directory []))
    (outer : Path.IsComponent source) (inner : Path.IsComponent table)
    (names : ∀ n ∈ [Name.ofString source, .ofString table, dataName table, schemaName table],
      n.Proper)
    (short : ∀ e ∈ oneTable source table contents (Text.octets (Json.pretty (schemaJson fields)))
      (manifest.map fun j => Text.octets (Json.pretty j)), FileTree.fits f.dataDirectory e.1)
    (aside : manifest.isSome → source ≠ Catalog.Manifest.fileName)
    (order : deeds.Perm (allDeeds fields contents manifest)) :
    ∃ f', deeds.foldlM (Deed.perform source table) f = .ok f' := by
  obtain ⟨spot, keeps⟩ := keeps_of_empty proper empty
  have files := files_perm source table order
  have among : ∀ e ∈ deeds.map (Deed.file source table), e ∈ oneTable source table contents
      (Text.octets (Json.pretty (schemaJson fields)))
      (manifest.map fun j => Text.octets (Json.pretty j)) := fun e member =>
    files.mem_iff.1 (by simpa using member)
  rw [foldlM_perform outer inner]
  refine keeps.exists_storeAll (fun e member => ?_) (fun e member => short e (among e member)) ?_
  · have manifest : manifestName.Proper := by decide
    simp only [List.forall_mem_cons] at names
    obtain ⟨first, second, data, schema, -⟩ := names
    rcases Catalog.OneTable.cases_of_mem (among e member) with rfl | rfl | ⟨_, -, rfl⟩
    · simp [first, second, data]
    · simp [first, second, schema]
    · simp [manifest]
  · exact (files.pairwise_iff fun apart => ⟨apart.2, apart.1⟩).2 (oneTable_apart aside _ _ _)

/-- The text of a manifest that it gives back declares what the manifest does. -/
theorem declares_of_exact {j j' : Json} (exact : Json.Exact Json.nestings j)
    (declares : Catalog.Manifest.Declares j source table)
    (read : Json.read (Json.pretty j) = .ok j') : Catalog.Manifest.Declares j' source table := by
  rw [Json.read_pretty exact] at read
  obtain rfl := Except.ok.inj read
  exact declares

theorem readsAs_pretty_iff {j' : Json} :
    Catalog.OneTable.ReadsAs (manifest.map fun j => Text.octets (Json.pretty j)) j' ↔
      ∃ j ∈ manifest, Json.read (Json.pretty j) = .ok j' := by
  constructor
  · rintro ⟨_, text, held, spelled, read⟩
    obtain ⟨j, known, rfl⟩ := Option.map_eq_some_iff.1 held
    obtain rfl : Json.pretty j = text := by simpa [Text.ofOctets?_octets] using spelled
    exact ⟨j, known, read⟩
  · rintro ⟨j, known, read⟩
    exact ⟨_, _, Option.map_eq_some_iff.2 ⟨j, known, rfl⟩, Text.ofOctets?_octets _, read⟩

/-- **Schemas of fixtures.** A fixture whose data directory is empty is given a table: its schema is
written, its data file is made and maybe a manifest is written, in whatever order. A manifest declares
the table as far as its text can be read. Then a catalog of the data directory is built, and in it the
table has exactly the fields that were written, in their order and with no other keys. Without a
manifest it comes from a scan, and with one of the right shape it comes from that. -/
theorem schema_read_back (proper : f.files.Proper)
    (empty : f.files.node f.dataDirectory = .ok (.directory []))
    (outer : Path.IsComponent source) (visible : (Name.ofString source).isHidden = false)
    (inner : Path.IsComponent table)
    (declares : ∀ j ∈ manifest, ∀ j', Json.read (Json.pretty j) = .ok j' →
      Catalog.Manifest.Declares j' source table)
    (order : deeds.Perm (allDeeds fields contents manifest))
    (done : deeds.foldlM (Deed.perform source table) f = .ok f') :
    ∃ c, (Catalog.build f'.files f'.dataDirectory).value = .ok c ∧
      c.tableSchema source table = .ok (fields.map fun e => ⟨e.1, e.2, []⟩) ∧
      (manifest = none → c.origin = .directoryScan) ∧
      ∀ j ∈ manifest, ∀ j', Json.read (Json.pretty j) = .ok j' →
        Catalog.Manifest.Shaped j' → c.origin = .manifest := by
  obtain ⟨spot, files, keeps, same⟩ := keeps_of_deeds proper empty outer inner order done
  obtain ⟨entries, here⟩ := FileTree.standing_directory_iff.1 keeps.here
  have leads := FileTree.node_of_locate keeps.located here
  have project := (keeps.holds.keeps here).congr same
  have short := fun e member => keeps.fits e (same.mem_iff.2 member)
  have declared (j' : Json) (known : Catalog.OneTable.ReadsAs
      (manifest.map fun j => Text.octets (Json.pretty j)) j') :
      Catalog.Manifest.Declares j' source table := by
    obtain ⟨j, written, read⟩ := readsAs_pretty_iff.1 known
    exact declares j written j' read
  obtain ⟨c, built, described, scanned, given⟩ :=
    Catalog.OneTable.exists_build project keeps.proper leads short visible declared
  rw [Catalog.describedBy_pretty] at described
  refine ⟨c, built, described, fun bare => scanned (by rw [bare]; rfl), fun j known j' read => ?_⟩
  exact given j' (readsAs_pretty_iff.2 ⟨j, known, read⟩)

/-! ### A fixture of orders -/

/-- A tree without files. -/
def emptyTree : FileTree := ⟨.directory [], []⟩

/-- Fields whose names and types are hard to write. -/
def oddFields : List (String × String) := [
  ("say \"no\"", "back\\slash"),
  ("", "line\nbreak"),
  ("\u0001 and \u007f", "\u2028"),
  ("𝄞", "INTEGER")]

/-- The fields of orders are read back from a fixture with a manifest, which is written first. -/
theorem oddFields_read_back : ∃ f f' c, create emptyTree Catalog.here = .ok f ∧
    [.manifest Catalog.Manifest.ordersManifest, .data [], .schema oddFields].foldlM
      (Deed.perform "sales" "orders") f = .ok f' ∧
    (Catalog.build f'.files f'.dataDirectory).value = .ok c ∧
    c.tableSchema "sales" "orders" = .ok [⟨"say \"no\"", "back\\slash", []⟩, ⟨"", "line\nbreak", []⟩,
      ⟨"\u0001 and \u007f", "\u2028", []⟩, ⟨"𝄞", "INTEGER", []⟩] ∧
    c.origin = .manifest := by
  have plain : emptyTree.Proper := FileTree.proper_of_names (by decide)
  have empty : emptyTree.node Catalog.here = .ok (.directory []) := FileTree.node_dot rfl
  obtain ⟨f, created, same⟩ := exists_create plain empty (by decide)
  obtain ⟨proper, bare⟩ := empty_of_create plain empty created
  have root : f.dataDirectory = renderedNames.foldl Path.child Catalog.here := by
    rw [dataDirectory_eq, same]
  have outer : Path.IsComponent "sales" := ⟨by decide, by decide⟩
  have inner : Path.IsComponent "orders" := ⟨by decide, by decide⟩
  have exact : Json.Exact Json.nestings Catalog.Manifest.ordersManifest := by
    simp [Catalog.Manifest.ordersManifest, Json.texts, Json.nestings, Json.Fits]
  have order : [Deed.manifest Catalog.Manifest.ordersManifest, .data [], .schema oddFields].Perm
      (allDeeds oddFields [] (some Catalog.Manifest.ordersManifest)) :=
    (List.reverse_perm _).symm
  have short : ∀ e ∈ oneTable "sales" "orders" [] (Text.octets (Json.pretty (schemaJson oddFields)))
      ((some Catalog.Manifest.ordersManifest).map fun j => Text.octets (Json.pretty j)),
      FileTree.fits f.dataDirectory e.1 := by
    rw [root]
    intro e member
    rcases Catalog.OneTable.cases_of_mem member with rfl | rfl | ⟨_, -, rfl⟩
    · decide
    · decide
    · show FileTree.fits (renderedNames.foldl Path.child Catalog.here) [manifestName]
      decide
  have declares : ∀ j ∈ some Catalog.Manifest.ordersManifest, ∀ j',
      Json.read (Json.pretty j) = .ok j' → Catalog.Manifest.Declares j' "sales" "orders" := by
    rintro _ ⟨⟩ j' read
    exact declares_of_exact exact (Catalog.Manifest.ordersManifest_declares.2 ⟨rfl, rfl⟩) read
  obtain ⟨f', done⟩ := exists_perform proper bare outer inner (by decide) short
    (fun _ => by decide) order
  obtain ⟨c, built, described, -, given⟩ :=
    schema_read_back proper bare outer (by decide) inner declares order done
  exact ⟨f, f', c, created, done, built, described,
    given _ rfl _ (Json.read_pretty exact) Catalog.Manifest.ordersManifest_shaped⟩

end DataShelf.Fixture
