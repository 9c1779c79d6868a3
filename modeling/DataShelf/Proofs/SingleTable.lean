import DataShelf.Proofs.DescribedTables
import DataShelf.Proofs.Fallback
import DataShelf.Proofs.FixtureFiles
import DataShelf.Proofs.RenderedProjects
import DataShelf.Proofs.Responses
import DataShelf.Proofs.WideText

/-!
# Projects with one table

Where nothing stands in a project but the files of one table (`oneTable`), and maybe a manifest that
declares it, a catalog is built that has the table with the fields that its schema file describes
(`OneTable.exists_build`). A scan finds the table because none of the files is a script
(`OneTable.isDirectoryTable`). What a manifest gives has it too, however the rest of the manifest
looks (`Manifest.table?_of_discover`), and if the manifest gives nothing the scan comes next. A schema
that was written is described by its text as it was written (`describedBy_pretty`).
-/

namespace DataShelf
set_option autoImplicit false

open Files (Name Node Path FileTree)

namespace Catalog

/-! ### Written schemas -/

/-- The text of a schema is read back. -/
theorem exact_schemaJson (fields : List (String × String)) :
    Json.Exact Json.nestings (Fixture.schemaJson fields) := by
  refine .array fun j member => ?_
  obtain ⟨e, -, rfl⟩ := List.mem_map.1 member
  simp

/-- The text of a schema is decoded as its fields, which have no keys besides their names and
types. -/
theorem decodeSchema_pretty (fields : List (String × String)) :
    decodeSchema (Json.pretty (Fixture.schemaJson fields)) =
      .ok (fields.map fun e => ⟨e.1, e.2, []⟩) := by
  have exact := exact_schemaJson fields
  have spelled := Json.spells_pretty exact
  have read := Json.read_pretty exact
  obtain ⟨j, spelled', shallow⟩ := Json.exists_spells_of_read read
  obtain rfl := spelled.unique spelled'
  have each : ∀ e ∈ fields, SchemaField.decoder.ofJson
      (.object [("name", .string e.1), ("type", .string e.2)]) = .ok ⟨e.1, e.2, []⟩ :=
    fun e _ => rfl
  have taken : schemaDecoder.ofJson (Fixture.schemaJson fields) =
      .ok (fields.map fun e => ⟨e.1, e.2, []⟩) := by
    show (fields.map _).mapM SchemaField.decoder.ofJson = _
    rw [List.mapM_map]
    exact Json.mapM_eq_ok each
  have once := Json.keysOnce_of_read read
  apply decodeSchema_eq_ok_iff.2
  exact Json.decodeText_of_spells schemaDecoder_uniform spelled once shallow taken

/-- The text of a schema describes its fields. -/
theorem describedBy_pretty (fields : List (String × String)) :
    describedBy (Text.octets (Json.pretty (Fixture.schemaJson fields))) =
      fields.map fun e => ⟨e.1, e.2, []⟩ := by
  simp only [describedBy, Text.ofOctets?_octets, Option.map_some, decodeSchema_pretty]

/-! ### Declared tables of any manifest -/

namespace Manifest

/-- What is decoded from an object with a value under each key has the same keys, each with what was
decoded from its value. -/
theorem entries_of_dict {α : Type} {d : Json.Decoder α} {fields : Json.Fields}
    {l : List (String × α)} (decoded : (Json.Decoder.dict d).ofJson (.object fields) = .ok l) :
    l.map (·.1) = fields.map (·.1) ∧
      ∀ e ∈ fields, ∃ a, d.ofJson e.2 = .ok a ∧ (e.1, a) ∈ l := by
  have each : List.Forall₂ (fun e e' => e'.1 = e.1 ∧ d.ofJson e.2 = .ok e'.2) fields l := by
    refine (Json.mapM_eq_ok_iff.1 decoded).imp fun e e' taken => ?_
    obtain ⟨a, here, rfl⟩ := Json.map_eq_ok_iff.1 taken
    exact ⟨rfl, here⟩
  clear decoded
  induction each with
  | nil => exact ⟨rfl, nofun⟩
  | cons here _ ih =>
    obtain ⟨same, taken⟩ := here
    obtain ⟨keys, entries⟩ := ih
    refine ⟨by rw [List.map_cons, List.map_cons, keys, same], List.forall_mem_cons.2 ⟨?_, ?_⟩⟩
    · exact ⟨_, taken, same ▸ List.mem_cons_self⟩
    · intro e member
      obtain ⟨a, taken, among⟩ := entries e member
      exact ⟨a, taken, List.mem_cons_of_mem _ among⟩

/-- Under a key that stands once a map has what stands there. -/
theorem get?_of_entry {α : Type} {l : List (String × α)} (once : (l.map (·.1)).Nodup) {key : String}
    {a : α} (entry : (key, a) ∈ l) : (NameMap.ofEntries l).get? key = some a := by
  rw [NameMap.get?_ofEntries once]
  cases first : l.find? fun e => e.1 == key with
  | none => exact absurd (beq_self_eq_true key) (List.find?_eq_none.1 first _ entry)
  | some e =>
    have same : e.1 = key := by simpa using List.find?_some first
    have only := List.inj_on_of_nodup_map once (List.mem_of_find?_eq_some first) entry same
    rw [only, Option.map_some]

/-- The tables in an object are those of the source that is decoded from it. -/
theorem tables_of_declared {fields tables : Json.Fields} {declared : Declared}
    (once : (fields.map (·.1)).Nodup)
    (inside : Json.lookup? tablesKey fields = some (.object tables))
    (decoded : Declared.layout.decoder.ofJson (.object fields) = .ok declared) :
    declared.tables = tables := by
  have own (j : Json) (record taken : Declared)
      (took : Declared.layout.takeField record (tablesKey, j) = .ok taken) :
      some (Json.object taken.tables) = some j := by
    obtain ⟨change, here, rfl⟩ := Json.map_eq_ok_iff.1 took
    obtain ⟨l, whole, rfl⟩ := Json.map_eq_ok_iff.1 here
    cases j with
    | object members =>
      have each : ∀ e ∈ members, Json.Decoder.any.ofJson e.2 = .ok (id e.2) := fun _ _ => rfl
      rw [Json.ofJson_dict each] at whole
      obtain rfl := Except.ok.inj whole
      simp
    | _ => cases whole
  have besides (key : String) (j : Json) (record taken : Declared) (other : key ≠ tablesKey)
      (took : Declared.layout.takeField record (key, j) = .ok taken) :
      some (Json.object taken.tables) = some (.object record.tables) := by
    rw [takeField_other other] at took
    obtain rfl := Except.ok.inj took
    rfl
  have part := Declared.layout.part_of_object (fun d => some (Json.object d.tables)) own besides
    once decoded
  rw [inside] at part
  exact Json.object.inj (Option.some.inj part)

/-- Whatever else is in a manifest, a table that it declares is decoded from it, if anything is. -/
theorem mem_of_declares {j : Json} {declared : NameMap (List String)} {source table : String}
    (once : j.KeysOnce) (declares : Declares j source table)
    (decoded : (declaredTables? j).value = some declared) :
    ∃ tables, declared.get? source = some tables ∧ table ∈ tables := by
  cases declares with
  | @rendered files paths path here listed member names =>
    have keys := (once.field? here).fields.1
    obtain ⟨l, taken, rfl⟩ : ∃ l,
        (Json.Decoder.dict (.list .string)).ofJson (.object files) = .ok l ∧
        declared = .ofEntries (l.map fun e => (e.1, e.2.filterMap tableOf?)) := by
      simp only [declaredTables?, key?_of_object here] at decoded
      cases tables : renderedTables (.object files) with
      | error m => simp [tables] at decoded
      | ok declared' =>
        obtain rfl : declared' = declared := by simpa [tables] using decoded
        obtain ⟨l, taken, rfl⟩ := Json.map_eq_ok_iff.1 tables
        exact ⟨l, taken, rfl⟩
    obtain ⟨same, entries⟩ := entries_of_dict taken
    obtain ⟨texts, read, entry⟩ := entries _ ((Json.lookup?_eq_some_iff keys).1 listed)
    rw [Json.ofJson_texts] at read
    obtain rfl := Except.ok.inj read
    refine ⟨paths.filterMap tableOf?, get?_of_entry ?_ (List.mem_map.2 ⟨_, entry, rfl⟩), ?_⟩
    · simpa [Function.comp_def, same] using keys
    · exact List.mem_filterMap.2 ⟨path, member, tableOf?_eq_some_iff.2 names⟩
  | @sources sources fields tables bare here known inside member =>
    obtain ⟨keys, within⟩ := (once.field? here).fields
    obtain ⟨l, taken, rfl⟩ : ∃ l,
        (Json.Decoder.dict Declared.layout.decoder).ofJson (.object sources) = .ok l ∧
        declared = .ofEntries (l.map fun e => (e.1, (NameMap.ofEntries e.2.tables).names)) := by
      simp only [declaredTables?, bare, key?_of_object here] at decoded
      cases read : sourceTables (.object sources) with
      | error m => simp [read] at decoded
      | ok declared' =>
        obtain rfl : declared' = declared := by simpa [read] using decoded
        obtain ⟨l, taken, rfl⟩ := Json.map_eq_ok_iff.1 read
        exact ⟨l, taken, rfl⟩
    obtain ⟨same, entries⟩ := entries_of_dict taken
    have standing := (Json.lookup?_eq_some_iff keys).1 known
    obtain ⟨source', read, entry⟩ := entries _ standing
    have single := within _ standing
    obtain rfl := tables_of_declared single.fields.1 inside read
    refine ⟨_, get?_of_entry ?_ (List.mem_map.2 ⟨_, entry, rfl⟩), ?_⟩
    · simpa [Function.comp_def, same] using keys
    · have once' := (single.field? inside).fields.1
      rwa [NameMap.mem_names_iff, NameMap.get?_ofEntries once', ← Json.lookup?_eq_find?]

section Given

variable {t : FileTree} {root : Path} {m : SourceMap} {source table : String}

/-- What a manifest leads to was read from it. -/
theorem exists_read_of_discover (given : (discover t root).value = some m) :
    ∃ j, read t (root.joinText fileName) = .ok j := by
  unfold discover at given
  dsimp only at given
  split at given
  · split at given
    · simp at given
    · next j known => exact ⟨j, known⟩
  · simp at given

/-- What a manifest gives has a table that it declares, if the data file of the table is there. -/
theorem table?_of_discover (given : (discover t root).value = some m)
    (declares : ∀ j, read t (root.joinText fileName) = .ok j → Declares j source table)
    (there : t.isFile (dataPath root source table)) :
    m.table? source table = some (declaredTable t root source table) := by
  obtain ⟨j, known⟩ := exists_read_of_discover given
  rw [value_discover_of_read known] at given
  obtain ⟨declared, decoded, rfl⟩ := Option.map_eq_some_iff.1 given
  refine ((lists_ofDeclared t root declared).listed source table _).2 ⟨?_, ?_⟩
  · exact mem_of_declares (keysOnce_of_read known) (declares j known) decoded
  · exact declared?_eq_some_iff.2 ⟨there, rfl⟩

end Given

end Manifest

/-- A catalog has a table that a scan finds, unless a manifest gives something without it. -/
theorem exists_build_of_scan {t : FileTree} {root : Path} {source table : String} {tb : Table}
    (directory : t.isDirectory root)
    (scanned : (Scan.discover t root).value.table? source table = some tb)
    (given : ∀ m, (Manifest.discover t root).value = some m → m.table? source table = some tb) :
    ∃ c, (build t root).value = .ok c ∧ c.table source table = .ok tb ∧
      (c.origin = .manifest ↔ (Manifest.discover t root).value.isSome) := by
  have built := build_of_directory directory
  cases found : (Manifest.discover t root).value with
  | none =>
    have outcome : (discover t root).value = (.directoryScan, (Scan.discover t root).value) := by
      simp only [discover, Traced.value_bind, found, value_scan]
    rw [outcome] at built
    exact ⟨_, built, table_eq_ok_iff_table?.2 scanned, by simp⟩
  | some m =>
    have listed := given m found
    obtain ⟨s, held, -⟩ := Option.bind_eq_some_iff.1 listed
    have filled : m.isEmpty = false := NameMap.isEmpty_eq_false_iff.2 ⟨source, s, held⟩
    have outcome : (discover t root).value = (.manifest, m) := by
      simp [discover, found, filled]
    rw [outcome] at built
    exact ⟨_, built, table_eq_ok_iff_table?.2 listed, by simp⟩

end Catalog

/-! ### Directories that hold certain files -/

/-- A component of a path is an ordinary name. -/
theorem Files.Path.IsComponent.ordinary {s : String} (h : Path.IsComponent s) :
    (Name.ofString s).Ordinary := by
  have counts := h.counts
  unfold Path.componentOf? at counts
  split at counts
  · cases counts
  · next idle =>
    split at counts
    · cases counts
    · next up =>
      refine ⟨Bool.eq_false_iff.2 idle, fun same => up (beq_iff_eq.2 same), fun slash => ?_⟩
      exact h.part (Files.slash_mem_octets_iff.1 slash)

namespace Files.Node

/-- Below a directory stand these files, the directories on the way to them, and nothing else. -/
structure Keeps (node : Node) (files : List (List Name × List UInt8)) : Prop where
  held : ∀ e ∈ files, node.descend e.1 = some (.file e.2)
  only : ∀ way below, node.descend way = some below →
    (∃ contents, below = .file contents ∧ (way, contents) ∈ files) ∨
    (∃ entries, below = .directory entries) ∧ (way = [] ∨ ∃ e ∈ files, way <+: e.1.dropLast)

variable {node below : Node} {files files' : List (List Name × List UInt8)} {way : List Name}
  {contents : List UInt8}

/-- A file that is kept is found under its names. -/
theorem Keeps.descend (h : node.Keeps files) (member : (way, contents) ∈ files) :
    node.descend way = some (.file contents) :=
  h.held _ member

/-- The order in which files are given does not matter. -/
theorem Keeps.congr (h : node.Keeps files) (same : files.Perm files') : node.Keeps files' where
  held e member := h.held e (same.mem_iff.2 member)
  only way below down := by
    simpa only [same.mem_iff] using h.only way below down

end Files.Node

namespace Files.FileTree

variable {t : FileTree} {spot : List Name} {files : List (List Name × List UInt8)} {node : Node}

/-- A node that holds just these files keeps them. -/
theorem HoldsOnly.keeps (h : t.HoldsOnly spot files) (here : t.root.descend spot = some node) :
    node.Keeps files where
  held := by
    intro e member
    have held := standing_file_iff.1 (h.held e member)
    rwa [Node.descend_append, here, Option.bind_some] at held
  only := by
    intro way below down
    have whole : t.root.descend (spot ++ way) = some below := by
      rw [Node.descend_append, here, Option.bind_some, down]
    have there : t.standing (spot ++ way) = some below.shell := by
      rw [standing, whole, Option.map_some]
    rcases h.only way _ there with ⟨contents, flat, member⟩ | ⟨flat, above⟩
    · have file := standing_file_iff.1 (flat ▸ there)
      exact .inl ⟨contents, Option.some.inj (whole.symm.trans file), member⟩
    · obtain ⟨entries, directory⟩ := standing_directory_iff.1 (flat ▸ there)
      refine .inr ⟨⟨entries, Option.some.inj (whole.symm.trans directory)⟩, above.imp id ?_⟩
      rintro ⟨e, member, before⟩
      refine ⟨e, member, prefix_dropLast before ?_⟩
      rintro rfl
      have file := standing_file_iff.1 (h.held e member)
      cases directory.symm.trans file

end Files.FileTree

namespace Catalog

open Files (IsPart)
open Manifest (declaredTable dataPath schemaPath)

/-! ### A project with one table -/

theorem dataName_ordinary {table : String} (part : IsPart table) : (dataName table).Ordinary := by
  obtain ⟨real, up⟩ := dataName_counts table
  refine ⟨real, up, fun slash => ?_⟩
  exact ((part.append (by decide)).append (by decide)) (Files.slash_mem_octets_iff.1 slash)

theorem schemaName_ordinary {table : String} (part : IsPart table) :
    (schemaName table).Ordinary := by
  obtain ⟨real, up⟩ := schemaName_counts table
  refine ⟨real, up, fun slash => ?_⟩
  exact (part.append (by decide)) (Files.slash_mem_octets_iff.1 slash)

theorem manifestPath_eq (root : Path) :
    root.joinText Manifest.fileName = root.child manifestName :=
  Path.joinText_of_part (by decide) root

theorem dataName_ne_schemaName {table : String} : dataName table ≠ schemaName table := by
  intro same
  have other : ¬Scan.NamedAsSchema (Path.empty.child (dataName table)) := dataName_not_schema
  rw [same] at other
  exact other schemaName_schema

/-- The files of a project that has one table: its data file, its schema file and maybe a
manifest. -/
def oneTable (source table : String) (data schema : List UInt8) (manifest : Option (List UInt8)) :
    List (List Name × List UInt8) :=
  ([.ofString source, .ofString table, dataName table], data) ::
    ([.ofString source, .ofString table, schemaName table], schema) ::
    (manifest.map fun contents => ([manifestName], contents)).toList

namespace OneTable

/-- A file that may be there is, and what is read from its text is a value. -/
def ReadsAs (manifest : Option (List UInt8)) (j : Json) : Prop :=
  ∃ contents text, manifest = some contents ∧ Text.ofOctets? contents = some text ∧
    Json.read text = .ok j

variable {t : FileTree} {root : Path} {project : Node} {source table : String}
  {data schema : List UInt8} {manifest : Option (List UInt8)}

theorem data_mem : ([.ofString source, .ofString table, dataName table], data) ∈
    oneTable source table data schema manifest := List.mem_cons_self

theorem schema_mem : ([.ofString source, .ofString table, schemaName table], schema) ∈
    oneTable source table data schema manifest := List.mem_cons_of_mem _ List.mem_cons_self

/-- The files are the data file, the schema file and the manifest, if there is one. -/
theorem cases_of_mem {e : List Name × List UInt8}
    (member : e ∈ oneTable source table data schema manifest) :
    e = ([.ofString source, .ofString table, dataName table], data) ∨
      e = ([.ofString source, .ofString table, schemaName table], schema) ∨
      ∃ contents, manifest = some contents ∧ e = ([manifestName], contents) := by
  rcases List.mem_cons.1 member with here | member
  · exact .inl here
  rcases List.mem_cons.1 member with here | member
  · exact .inr (.inl here)
  obtain ⟨contents, known, rfl⟩ := Option.map_eq_some_iff.1 (Option.mem_toList.1 member)
  exact .inr (.inr ⟨contents, known, rfl⟩)

variable (keeps : project.Keeps (oneTable source table data schema manifest))

include keeps

/-- The directories of the project are that of the source and that of the table. -/
theorem directory_cases {way : List Name} {entries : List (Name × Node)}
    (down : project.descend way = some (.directory entries)) :
    way <+: [.ofString source, .ofString table] := by
  rcases keeps.only way _ down with ⟨_, same, -⟩ | ⟨-, rfl | ⟨e, member, before⟩⟩
  · cases same
  · exact List.nil_prefix
  · rcases cases_of_mem member with rfl | rfl | ⟨contents, -, rfl⟩
    · exact before
    · exact before
    · exact before.trans List.nil_prefix

/-- The directory of the table holds its data file and its schema file. -/
theorem exists_holdsTable : ∃ node,
    project.descend [.ofString source, .ofString table] = some node ∧ HoldsTable table node := by
  have whole : project.descend ([.ofString source, .ofString table] ++ [dataName table]) =
      some (.file data) := keeps.descend data_mem
  rw [Node.descend_append] at whole
  obtain ⟨node, down, file⟩ := Option.bind_eq_some_iff.1 whole
  refine ⟨node, down, ⟨data, file⟩, fun n next inside => ?_⟩
  have below : project.descend ([.ofString source, .ofString table] ++ [n]) = some next := by
    rw [Node.descend_append, down, Option.bind_some, inside]
  rcases keeps.only _ _ below with ⟨contents, rfl, member⟩ | ⟨⟨entries, rfl⟩, -⟩
  · refine ⟨?_, contents, rfl⟩
    rcases cases_of_mem member with same | same | ⟨_, -, same⟩
    · exact .inl (by simpa using congrArg Prod.fst same)
    · exact .inr (by simpa using congrArg Prod.fst same)
    · simp at same
  · have before := (directory_cases keeps below).length_le
    simp at before

theorem exists_entries : ∃ entries, project = .directory entries := by
  obtain ⟨node, down, -⟩ := exists_holdsTable keeps
  obtain ⟨entries, _, directory, -, -⟩ := Node.descend_cons_eq_some down
  exact ⟨entries, directory⟩

variable (proper : t.Proper) (leads : t.node root = .ok project)

include proper leads

theorem names_of_keeps : ∀ n ∈ [Name.ofString source, .ofString table], n.Proper := by
  obtain ⟨node, down, -⟩ := exists_holdsTable keeps
  exact proper.names_below leads down

/-- No file of the project is a script. -/
theorem no_script : ¬∃ script, Scan.IsScript t root script := by
  rintro ⟨script, reached, scripted⟩
  have named : Text.octets table ≠ [] := by
    have names := names_of_keeps keeps proper leads
    exact octets_ne_nil (names _ (by simp))
  obtain ⟨entries, rfl⟩ := exists_entries keeps
  have directory : t.isDirectory root := by
    rw [FileTree.isDirectory, leads]
  obtain ⟨_, way, found, shown, -, rfl⟩ := (FileTree.reaches_iff_sees directory).1 reached
  obtain rfl := Except.ok.inj (leads.symm.trans found)
  obtain ⟨contents, file⟩ := shown.descend
  rcases keeps.only way _ file with ⟨_, -, member⟩ | ⟨⟨_, same⟩, -⟩
  · rcases cases_of_mem member with same | same | ⟨_, -, same⟩
    · obtain rfl := congrArg Prod.fst same
      exact absurd ((dataName_hasExtension_iff named).1 scripted) (by decide)
    · obtain rfl := congrArg Prod.fst same
      exact absurd (schemaName_hasExtension_iff.1 scripted) (by decide)
    · obtain rfl := congrArg Prod.fst same
      exact absurd (manifestName_hasExtension_iff.1 scripted) (by decide)
  · cases same

/-- What is read as the manifest of the project is what stands there as such. -/
theorem readsAs_of_read {j : Json}
    (known : Manifest.read t (root.joinText Manifest.fileName) = .ok j) : ReadsAs manifest j := by
  obtain ⟨entries, rfl⟩ := exists_entries keeps
  rw [manifestPath_eq] at known
  obtain ⟨text, spelled, parsed⟩ := Manifest.read_eq_ok_iff.1 known
  obtain ⟨contents, found, decoded⟩ := FileTree.readText_eq_ok_iff.1 spelled
  obtain ⟨next, named⟩ := FileTree.exists_named?_of_node_child leads (by decide) (by decide) found
  have standing : (Node.directory entries).descend [manifestName] = some next := by
    simpa using named
  have reached (plain : ∀ target, next ≠ .link target) :
      t.node (root.child manifestName) = .ok next := by
    show t.node ([manifestName].foldl Path.child root) = _
    exact FileTree.node_of_fits proper leads standing plain (FileTree.fits_of_node found)
  rcases keeps.only _ _ standing with ⟨held, rfl, member⟩ | ⟨⟨inside, rfl⟩, -⟩
  · obtain rfl : contents = held := by simpa [found] using reached (by simp)
    rcases cases_of_mem member with same | same | ⟨_, given, same⟩
    · simp at same
    · simp at same
    · obtain rfl := congrArg Prod.snd same
      exact ⟨contents, text, given, decoded, parsed⟩
  · simp [found] at reached

variable (short : ∀ e ∈ oneTable source table data schema manifest, FileTree.fits root e.1)

include short

/-- The paths of the files can be followed. -/
theorem node_of_mem {way : List Name} {contents : List UInt8}
    (member : (way, contents) ∈ oneTable source table data schema manifest) :
    t.node (way.foldl Path.child root) = .ok (.file contents) :=
  FileTree.node_of_fits proper leads (keeps.descend member) (by simp) (short _ member)

theorem node_dataPath : t.node (dataPath root source table) = .ok (.file data) := by
  rw [dataPath_of_names (names_of_keeps keeps proper leads)]
  exact node_of_mem keeps proper leads short data_mem

theorem node_schemaPath : t.node (schemaPath root source table) = .ok (.file schema) := by
  rw [schemaPath_of_names (names_of_keeps keeps proper leads)]
  exact node_of_mem keeps proper leads short schema_mem

/-- The table as it is declared, with the fields that its schema file describes. -/
theorem declaredTable_eq : declaredTable t root source table =
    ⟨table, dataPath root source table, some (schemaPath root source table), describedBy schema,
      .parquet⟩ := by
  have node := node_schemaPath keeps proper leads short
  have there : t.isFile (schemaPath root source table) := FileTree.isFile_iff.2 ⟨schema, node⟩
  rw [declaredTable, if_pos there, value_loadSchema (FileTree.readFile_eq_ok_iff.2 node)]

/-- A scan of the project finds the table. -/
theorem isDirectoryTable (visible : (Name.ofString source).isHidden = false) :
    Scan.IsDirectoryTable t Scan.NamedAsSchema root source table
      (declaredTable t root source table) := by
  obtain ⟨node, down, holds⟩ := exists_holdsTable keeps
  have names := names_of_keeps keeps proper leads
  have wide : FileTree.fits root [.ofString source, .ofString table, dataName table] :=
    short _ data_mem
  have opened : FileTree.fits root [.ofString source, .ofString table] :=
    FileTree.fits_of_concat wide
  have inner : t.node ((root.child (.ofString source)).child (.ofString table)) = .ok node := by
    obtain ⟨below, rfl⟩ := holds.exists_entries
    show t.node ([Name.ofString source, .ofString table].foldl Path.child root) = _
    exact FileTree.node_of_fits proper leads down (by simp) opened
  obtain ⟨entries, next, rfl, named, rest⟩ := Node.descend_cons_eq_some down
  obtain ⟨inside, _, rfl, named', -⟩ := Node.descend_cons_eq_some rest
  have outer : t.node (root.child (.ofString source)) = .ok (.directory inside) := by
    show t.node ([Name.ofString source].foldl Path.child root) = _
    refine FileTree.node_of_fits proper leads ?_ (by simp) (FileTree.fits_of_concat opened)
    simpa using named
  refine ⟨visible, ⟨⟨entries, _, leads, named⟩, ?_⟩, ⟨⟨inside, _, outer, named'⟩, ?_⟩, ?_⟩
  · rw [FileTree.isDirectory, outer]
  · obtain ⟨below, rfl⟩ := holds.exists_entries
    rw [FileTree.isDirectory, inner]
  have files (n : Name) (contents : List UInt8) (file : node.descend [n] = some (.file contents)) :
      FileTree.fits ((root.child (.ofString source)).child (.ofString table)) [n] := by
    have whole : (Node.directory entries).descend ([.ofString source, .ofString table] ++ [n]) =
        some (.file contents) := by
      rw [Node.descend_append, down, Option.bind_some, file]
    rcases keeps.only _ _ whole with ⟨_, -, member⟩ | ⟨⟨_, same⟩, -⟩
    · exact short _ member
    · cases same
  exact (holds.isTable inner proper files (octets_ne_nil (names _ (by simp)))
    (dataPath_of_names names) (schemaPath_of_names names)).2

/-- What is spelled as the manifest is read as such. -/
theorem read_of_readsAs {j : Json} (reads : ReadsAs manifest j) :
    Manifest.read t (root.joinText Manifest.fileName) = .ok j := by
  obtain ⟨contents, text, rfl, spelled, parsed⟩ := reads
  have member : ([manifestName], contents) ∈ oneTable source table data schema (some contents) :=
    List.mem_cons_of_mem _ (List.mem_cons_of_mem _ List.mem_cons_self)
  have found : t.node (root.child manifestName) = .ok (.file contents) := by
    show t.node ([manifestName].foldl Path.child root) = _
    exact node_of_mem keeps proper leads short member
  refine Manifest.read_eq_ok_iff.2 ⟨text, ?_, parsed⟩
  rw [manifestPath_eq]
  exact FileTree.readText_eq_ok_iff.2 ⟨contents, found, spelled⟩

/-- **A project with one table.** Whether it has a manifest that declares the table or none, a
catalog is built that has the table, with the fields that its schema file describes. Without a
manifest it comes from a scan, and with one of the right shape it comes from that. -/
theorem exists_build (visible : (Name.ofString source).isHidden = false)
    (declares : ∀ j, ReadsAs manifest j → Manifest.Declares j source table) :
    ∃ c, (build t root).value = .ok c ∧ c.tableSchema source table = .ok (describedBy schema) ∧
      (manifest = none → c.origin = .directoryScan) ∧
      ∀ j, ReadsAs manifest j → Manifest.Shaped j → c.origin = .manifest := by
  have found := isDirectoryTable keeps proper leads short visible
  have plain := no_script keeps proper leads
  have directory : t.isDirectory root := by
    obtain ⟨entries, rfl⟩ := exists_entries keeps
    rw [FileTree.isDirectory, leads]
  have there : t.isFile (dataPath root source table) := by
    rw [FileTree.isFile, node_dataPath keeps proper leads short]
  have scanned := ((Scan.lists_directories proper plain).listed source table _).2 found
  have given (m : SourceMap) (known : (Manifest.discover t root).value = some m) :
      m.table? source table = some (declaredTable t root source table) := by
    refine Manifest.table?_of_discover known (fun j read => ?_) there
    exact declares j (readsAs_of_read keeps proper leads read)
  obtain ⟨c, built, listed, origin⟩ := exists_build_of_scan directory scanned given
  refine ⟨c, built, ?_, ?_, fun j reads shaped => ?_⟩
  · rw [tableSchema, listed, declaredTable_eq keeps proper leads short]
    rfl
  · rintro rfl
    cases way : c.origin with
    | directoryScan => rfl
    | manifest =>
      obtain ⟨m, known⟩ := Option.isSome_iff_exists.1 (origin.1 way)
      obtain ⟨j, read⟩ := Manifest.exists_read_of_discover known
      obtain ⟨_, _, given, -⟩ := readsAs_of_read keeps proper leads read
      cases given
  · have read := read_of_readsAs keeps proper leads short reads
    obtain ⟨m, known, -⟩ := Manifest.lists_discover read shaped
    exact origin.2 (by rw [known]; rfl)

end OneTable

end Catalog
end DataShelf
