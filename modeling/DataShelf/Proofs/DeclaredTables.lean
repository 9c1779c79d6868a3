import DataShelf.Proofs.CatalogInvariant
import DataShelf.Proofs.Declarations
import DataShelf.Proofs.SchemaFields
import DataShelf.Proofs.SourceMaps
import DataShelf.Proofs.TreeChanges

/-!
# The tables of manifests

A declared table is looked for at one path only, by the names of its source and itself
(`Manifest.dataPath`). The loop over declared names ends with the tables whose files are there
(`Manifest.lists_ofDeclared`), so a manifest of the right shape is listed exactly: the tables that it
declares, as far as their data files are there (`Manifest.lists_discover`), with the fields that their
schema files describe (`Manifest.described_declaredTable`). Another manifest in its
place that declares the same leads to the same sources, for the manifest itself cannot be the schema
file of a table (`Manifest.value_loadSchema_of_same`).
-/

namespace DataShelf.Catalog.Manifest
set_option autoImplicit false

open Files (Name Path FileTree IsPart)

variable {t t' : FileTree} {root : Path} {j j' : Json}

/-! ### Declared tables -/

/-- Where the files of a declared table lie. -/
def tableDirectory (root : Path) (source table : String) : Path :=
  (root.joinText source).joinText table

/-- The path of the data file of a declared table. -/
def dataPath (root : Path) (source table : String) : Path :=
  (tableDirectory root source table).joinText (table ++ "." ++ parquetExtension)

/-- The path of the schema file of a declared table. -/
def schemaPath (root : Path) (source table : String) : Path :=
  (tableDirectory root source table).joinText (table ++ schemaSuffix)

/-- The data file of a table whose names are parts of a path lies two directories below the root. -/
theorem dataPath_of_parts {source table : String} (outer : IsPart source) (inner : IsPart table)
    (root : Path) : dataPath root source table =
      [Name.ofString source, .ofString table, .ofString (table ++ "." ++ parquetExtension)].foldl
        Path.child root := by
  have file : IsPart (table ++ "." ++ parquetExtension) :=
    (inner.append (by decide)).append (by decide)
  rw [dataPath, tableDirectory, Path.joinText_of_part outer, Path.joinText_of_part inner,
    Path.joinText_of_part file]
  rfl

/-- The schema file of such a table lies beside it. -/
theorem schemaPath_of_parts {source table : String} (outer : IsPart source) (inner : IsPart table)
    (root : Path) : schemaPath root source table =
      [Name.ofString source, .ofString table, .ofString (table ++ schemaSuffix)].foldl
        Path.child root := by
  rw [schemaPath, tableDirectory, Path.joinText_of_part outer, Path.joinText_of_part inner,
    Path.joinText_of_part (inner.append (by decide))]
  rfl

/-- A declared table whose data file is there. It has the schema file beside it if that is a file,
and the fields that the schema file describes. -/
def declaredTable (t : FileTree) (root : Path) (source table : String) : Table :=
  if t.isFile (schemaPath root source table) then
    ⟨table, dataPath root source table, some (schemaPath root source table),
      (loadSchema t (schemaPath root source table)).value, .parquet⟩
  else ⟨table, dataPath root source table, none, [], .parquet⟩

/-- What a declaration of a table adds to its source. -/
def declared? (t : FileTree) (root : Path) (source table : String) : Option Table :=
  if t.isFile (dataPath root source table) then some (declaredTable t root source table) else none

/-- The source of declared tables. -/
def declaredSource (t : FileTree) (root : Path) (source : String) (tables : List String) : Source :=
  (tables.foldlM (addTable t) (.of source (root.joinText source))).value

/-- What a declaration of a source adds to the map. -/
def declaredSource? (t : FileTree) (root : Path) (e : String × List String) : Option Source :=
  if (declaredSource t root e.1 e.2).tables.isEmpty then none
  else some (declaredSource t root e.1 e.2)

theorem name_declaredTable (source table : String) :
    (declaredTable t root source table).name = table := by
  unfold declaredTable
  split <;> rfl

/-- A declaration adds its table exactly if the data file is there. -/
theorem declared?_eq_some_iff {source table : String} {tb : Table} :
    declared? t root source table = some tb ↔
      t.isFile (dataPath root source table) ∧ tb = declaredTable t root source table := by
  unfold declared?
  split
  · next there => simp [there, eq_comm (a := tb)]
  · next away => simp [away]

/-- One more declared name adds its table, unless there is one of that name. -/
theorem addTable_adds {s : Source} {source : String} (here : s.path = root.joinText source)
    (table : String) :
    ((addTable t s table).value.name = s.name ∧ (addTable t s table).value.path = s.path) ∧
      NameMap.Adds Table.name (declared? t root source table) s.tables
        (addTable t s table).value.tables := by
  unfold addTable
  split
  · next known =>
    refine ⟨⟨rfl, rfl⟩, ?_⟩
    cases made : declared? t root source table with
    | none => exact .nothing _
    | some tb =>
      have named : tb.name = table := by
        rw [(declared?_eq_some_iff.1 made).2, name_declaredTable]
      exact .taken (named.symm ▸ known)
  · dsimp only
    have data : (s.path.joinText table).joinText (table ++ "." ++ parquetExtension) =
      dataPath root source table := by rw [here, dataPath, tableDirectory]
    have schema : (s.path.joinText table).joinText (table ++ schemaSuffix) =
      schemaPath root source table := by rw [here, schemaPath, tableDirectory]
    rw [data, schema]
    have kind : TableKind.ofPath (dataPath root source table) = .parquet :=
      TableKind.ofPath_joinText _ table
    by_cases there : t.isFile (dataPath root source table)
    · have made : declared? t root source table = some (declaredTable t root source table) :=
        if_pos there
      have added : ∀ tb, tb = declaredTable t root source table →
          NameMap.Adds Table.name (declared? t root source table) s.tables (s.add tb).tables := by
        rintro _ rfl
        rw [made]
        exact .new _ _
      rw [if_pos there]
      split
      · next described =>
        exact ⟨⟨rfl, rfl⟩, added _ (by rw [declaredTable, if_pos described, Table.of, kind])⟩
      · next described =>
        exact ⟨⟨rfl, rfl⟩, added _ (by rw [declaredTable, if_neg described, Table.of, kind])⟩
    · rw [if_neg there, declared?, if_neg there]
      exact ⟨⟨rfl, rfl⟩, .nothing _⟩

/-- The source of declared names has their tables, as far as their data files are there. -/
theorem declaredSource_holds (t : FileTree) (root : Path) (source : String) (tables : List String) :
    ((declaredSource t root source tables).name = source ∧
      (declaredSource t root source tables).path = root.joinText source) ∧
    ∀ table tb, (declaredSource t root source tables).tables.get? table = some tb ↔
      table ∈ tables ∧ declared? t root source table = some tb := by
  have step (s : Source) (keeps : s.name = source ∧ s.path = root.joinText source) (table : String)
      (_ : table ∈ tables) : ((addTable t s table).value.name = source ∧
        (addTable t s table).value.path = root.joinText source) ∧
        NameMap.Adds Table.name (declared? t root source table) s.tables
          (addTable t s table).value.tables := by
    obtain ⟨⟨name, path⟩, adds⟩ := addTable_adds (t := t) keeps.2 table
    exact ⟨⟨name.trans keeps.1, path.trans keeps.2⟩, adds⟩
  have named {table : String} {tb : Table} (made : declared? t root source table = some tb) :
      tb.name = table := by
    rw [(declared?_eq_some_iff.1 made).2, name_declaredTable]
  have agree (table : String) (_ : table ∈ tables) (table' : String) (_ : table' ∈ tables)
      (tb tb' : Table) (made : declared? t root source table = some tb)
      (made' : declared? t root source table' = some tb') (same : tb.name = tb'.name) :
      tb = tb' := by
    obtain rfl : table = table' := by rw [← named made, same, named made']
    exact Option.some.inj (made.symm.trans made')
  have filled := NameMap.get?_foldlM
    (fun s => s.name = source ∧ s.path = root.joinText source) Source.tables
    (s := .of source (root.joinText source)) ⟨rfl, rfl⟩ rfl step agree
  refine ⟨filled.1, fun table tb => (filled.2 table tb).trans ?_⟩
  constructor
  · rintro ⟨rfl, table, member, made⟩
    rw [named made]
    exact ⟨member, made⟩
  · rintro ⟨member, made⟩
    exact ⟨named made, table, member, made⟩

/-- A declared source is added under its name if it has a table. -/
theorem value_addSource (m : SourceMap) (e : String × List String) :
    (addSource t root m e).value =
      ((declaredSource? t root e).map fun s => m.insert s.name s).getD m := by
  have named := (declaredSource_holds t root e.1 e.2).1.1
  have whole : (e.2.foldlM (addTable t) (.of e.1 (root.joinText e.1))).value =
    declaredSource t root e.1 e.2 := rfl
  rw [addSource, Traced.value_bind, whole, declaredSource?]
  split <;> simp [named]

/-- The map of declared names has the tables whose data files are there. -/
theorem lists_ofDeclared (t : FileTree) (root : Path) (declared : NameMap (List String)) :
    SourceMap.Lists (ofDeclared t root declared).value
      (fun source path => path = root.joinText source)
      (fun source table tb => (∃ tables, declared.get? source = some tables ∧ table ∈ tables) ∧
        declared? t root source table = some tb) := by
  have step (m : SourceMap) (_ : True) (e : String × List String) (_ : e ∈ declared.entries) :
      True ∧ NameMap.Adds Source.name (declaredSource? t root e) m (addSource t root m e).value := by
    rw [value_addSource]
    cases declaredSource? t root e with
    | none => exact ⟨trivial, .nothing _⟩
    | some s => exact ⟨trivial, .new s _⟩
  have made {e : String × List String} {s : Source} (added : declaredSource? t root e = some s) :
      s.name = e.1 ∧ s.tables.isEmpty = false ∧ s = declaredSource t root e.1 e.2 := by
    rw [declaredSource?] at added
    split at added
    · cases added
    · next filled =>
      obtain rfl := Option.some.inj added
      exact ⟨(declaredSource_holds t root e.1 e.2).1.1, by simpa using filled, rfl⟩
  have agree (e : String × List String) (member : e ∈ declared.entries)
      (e' : String × List String) (member' : e' ∈ declared.entries) (s s' : Source)
      (added : declaredSource? t root e = some s) (added' : declaredSource? t root e' = some s')
      (same : s.name = s'.name) : s = s' := by
    rw [(made added).1, (made added').1] at same
    obtain ⟨name, tables⟩ := e
    obtain ⟨name', tables'⟩ := e'
    obtain rfl : name = name' := same
    obtain rfl := NameMap.unique member member'
    exact Option.some.inj (added.symm.trans added')
  have filled := NameMap.get?_foldlM (fun _ => True) id (s := NameMap.empty) trivial rfl step agree
  have found (name : String) (s : Source) : (ofDeclared t root declared).value.get? name = some s ↔
      s.name = name ∧ ∃ e ∈ declared.entries, declaredSource? t root e = some s := filled.2 name s
  have origin {s : Source} (member : s ∈ (ofDeclared t root declared).value.values) :
      ∃ e : String × List String, s.name = e.1 ∧ s.tables.isEmpty = false ∧
        s = declaredSource t root e.1 e.2 := by
    obtain ⟨⟨name, _⟩, entry, rfl⟩ := List.mem_map.1 member
    obtain ⟨-, e, -, added⟩ := (found _ _).1 (NameMap.get?_eq_some_iff.2 entry)
    exact ⟨e, made added⟩
  refine ⟨fun e entry => ?_, fun s member => ?_, fun s member => ?_, fun source table tb => ?_⟩
  · exact ((found _ _).1 (NameMap.get?_eq_some_iff.2 entry)).1
  · obtain ⟨e, -, filled, -⟩ := origin member
    exact filled
  · obtain ⟨e, named, -, rfl⟩ := origin member
    rw [named]
    exact (declaredSource_holds t root e.1 e.2).1.2
  · rw [SourceMap.table?, Option.bind_eq_some_iff]
    constructor
    · rintro ⟨s, known, inside⟩
      obtain ⟨rfl, e, entry, added⟩ := (found source s).1 known
      obtain ⟨named, -, same⟩ := made added
      rw [same, (declaredSource_holds t root e.1 e.2).2] at inside
      exact ⟨⟨e.2, NameMap.get?_eq_some_iff.2 (named ▸ entry), inside.1⟩, named ▸ inside.2⟩
    · rintro ⟨⟨tables, entry, member⟩, added⟩
      obtain ⟨⟨named, -⟩, holds⟩ := declaredSource_holds t root source tables
      have inside := (holds table tb).2 ⟨member, added⟩
      refine ⟨_, (found source _).2 ⟨named, _, NameMap.get?_eq_some_iff.1 entry, ?_⟩, inside⟩
      exact if_neg (by simpa using NameMap.isEmpty_eq_false_iff.2 ⟨table, tb, inside⟩)

/-! ### Manifests -/

/-- A manifest is read from the text of its file. -/
theorem read_eq_ok_iff {p : Path} :
    read t p = .ok j ↔ ∃ text, t.readText p = .ok text ∧ Json.read text = .ok j := by
  unfold read
  cases t.readText p with
  | error e => simp
  | ok text => cases parsed : Json.read text <;> simp [parsed]

/-- A file that spells a manifest is read as that. -/
theorem read_of_node {p : Path} {manifest : String}
    (found : t.node p = .ok (.file (Text.octets manifest))) (parsed : Json.read manifest = .ok j) :
    read t p = .ok j := by
  have spelled := FileTree.readText_eq_ok_iff.2 ⟨_, found, Text.ofOctets?_octets manifest⟩
  exact read_eq_ok_iff.2 ⟨manifest, spelled, parsed⟩

/-- What is read is a file. -/
theorem isFile_of_read {p : Path} (h : read t p = .ok j) : t.isFile p := by
  obtain ⟨text, spelled, -⟩ := read_eq_ok_iff.1 h
  obtain ⟨contents, found, -⟩ := FileTree.readText_eq_ok_iff.1 spelled
  exact FileTree.isFile_iff.2 ⟨contents, found⟩

/-- A manifest that was read has each key of an object once. -/
theorem keysOnce_of_read {p : Path} (h : read t p = .ok j) : j.KeysOnce := by
  obtain ⟨text, -, spelled⟩ := read_eq_ok_iff.1 h
  exact Json.keysOnce_of_read spelled

/-- What a manifest of the right shape leads to are the tables that it declares, as far as their data
files are there. -/
theorem lists_discover (h : read t (root.joinText fileName) = .ok j) (shaped : Shaped j) :
    ∃ m, (discover t root).value = some m ∧
      m.Lists (fun source path => path = root.joinText source)
        (fun source table tb => Declares j source table ∧ t.isFile (dataPath root source table) ∧
          tb = declaredTable t root source table) := by
  obtain ⟨declared, decoded, declares⟩ := declared_of_shaped shaped (keysOnce_of_read h)
  refine ⟨(ofDeclared t root declared).value, ?_, ?_⟩
  · simp only [discover, isFile_of_read h, if_true, h, Traced.value_bind, decoded]
    rfl
  · simpa only [declares, declared?_eq_some_iff] using lists_ofDeclared t root declared

/-- The fields of a declared table are those that its schema file describes. -/
theorem described_declaredTable (t : FileTree) (root : Path) (source table : String) :
    Described t (declaredTable t root source table) := by
  by_cases there : t.isFile (schemaPath root source table)
  · rw [declaredTable, if_pos there]
    constructor
    · rintro ⟨⟩
    · rintro p ⟨⟩
      obtain ⟨contents, read⟩ := FileTree.exists_readFile there
      refine ⟨contents, read, ?_⟩
      rw [value_loadSchema read]
      exact echoes_describedBy contents
  · rw [declaredTable, if_neg there]
    constructor
    · rintro -
      rfl
    · rintro p ⟨⟩

/-! ### Another manifest in its place -/

/-- A catalog is built from a manifest of the right shape as soon as the data file of one declared
table is there, and then it has the declared tables whose data files are there. -/
theorem exists_build (directory : t.isDirectory root)
    (h : read t (root.joinText fileName) = .ok j) (shaped : Shaped j) {source table : String}
    (declares : Declares j source table) (there : t.isFile (dataPath root source table)) :
    ∃ c, (build t root).value = .ok c ∧
      (∀ e ∈ c.tables, Declares j e.1.name e.2.name ∧ e.1.path = root.joinText e.1.name ∧
        e.2 = declaredTable t root e.1.name e.2.name) ∧
      ∀ source table, Declares j source table → t.isFile (dataPath root source table) →
        ∃ e ∈ c.tables, e.1.name = source ∧ e.2.name = table := by
  obtain ⟨m, found, lists⟩ := lists_discover h shaped
  have built : (build t root).value = .ok ⟨root, .manifest, m⟩ := by
    obtain ⟨s, known, -⟩ := Option.bind_eq_some_iff.1
      ((lists.listed source table _).2 ⟨declares, there, rfl⟩)
    have filled : m.isEmpty = false := NameMap.isEmpty_eq_false_iff.2 ⟨source, s, known⟩
    simp [build, directory, Catalog.discover, found, filled]
  refine ⟨_, built, fun e member => ?_, fun source table declares there => ?_⟩
  · have located := lists.located e.1 (mem_tables_iff.1 member).1
    have known := (sound_of_build built).keyed.table_names member
    obtain ⟨s, outer, inner⟩ := table_eq_ok_iff.1 known
    have listed := (lists.listed e.1.name e.2.name e.2).1
      (Option.bind_eq_some_iff.2 ⟨s, outer, inner⟩)
    exact ⟨listed.1, located, listed.2.2⟩
  · obtain ⟨s, outer, inner⟩ := Option.bind_eq_some_iff.1
      ((lists.listed source table _).2 ⟨declares, there, rfl⟩)
    refine ⟨(s, declaredTable t root source table), mem_tables_iff.2 ⟨?_, ?_⟩,
      lists.name_of_get? outer, name_declaredTable source table⟩
    · exact NameMap.mem_values_of_get? outer
    · exact List.mem_map.2 ⟨_, NameMap.get?_eq_some_iff.1 inner, rfl⟩

/-- Paths that lead to the same place have the same text. -/
theorem readText_of_locate {p q : Path} (same : t.locate true p = t.locate true q) :
    t.readText p = t.readText q := by
  simp only [FileTree.readText, FileTree.readFile, FileTree.node, same]

/-- An object is no schema file. -/
theorem value_loadSchema_of_object {p : Path} {fields : Json.Fields}
    (h : read t p = .ok (.object fields)) : (loadSchema t p).value = [] := by
  obtain ⟨text, spelled, parsed⟩ := read_eq_ok_iff.1 h
  rw [loadSchema, spelled]
  dsimp only
  cases decoded : decodeSchema text with
  | error message => rfl
  | ok fields =>
    unfold decodeSchema at decoded
    split at decoded
    · next listed => exact absurd listed (Json.decodeText_list_of_object _ parsed _)
    · cases decoded

/-- Schema files describe the same fields when another object takes the place of a manifest. If a
schema file is a link to the manifest it describes none. -/
theorem value_loadSchema_of_same {p q : Path} {fields fields' : Json.Fields}
    (same : FileTree.SameBut (fun place => t.locate true p = .ok place) t t')
    (h : read t p = .ok (.object fields)) (h' : read t' p = .ok (.object fields')) :
    (loadSchema t' q).value = (loadSchema t q).value := by
  by_cases met : ∃ place, t.locate true q = .ok place ∧ t.locate true p = .ok place
  · obtain ⟨place, there, here⟩ := met
    have located : t.locate true q = t.locate true p := there.trans here.symm
    have located' : t'.locate true q = t'.locate true p := by rw [same.locate, same.locate, located]
    have spelled : read t q = .ok (.object fields) := by
      rw [← h, read, read, readText_of_locate located]
    have spelled' : read t' q = .ok (.object fields') := by
      rw [← h', read, read, readText_of_locate located']
    rw [value_loadSchema_of_object spelled, value_loadSchema_of_object spelled']
  · have unchanged (place : List Name) (there : t.locate true q = .ok place) :
        ¬t.locate true p = .ok place := fun here => met ⟨place, there, here⟩
    rw [loadSchema, loadSchema, same.readText unchanged]

/-- **Declared tables.** A manifest of the right shape leads to the tables that it declares, as far as
their data files are there, and to no others. Each has the schema file beside its data file, if that
is a file, and the fields that this file describes. Rearranging the manifest changes nothing, nor
does what it holds besides rendered files if it has some. -/
theorem declared_tables_exact (h : read t (root.joinText fileName) = .ok j) (shaped : Shaped j) :
    ∃ m, (discover t root).value = some m ∧
      m.Lists (fun source path => path = root.joinText source)
        (fun source table tb => Declares j source table ∧ t.isFile (dataPath root source table) ∧
          tb = declaredTable t root source table) ∧
      (∀ source table tb, m.table? source table = some tb → Described t tb) ∧
      ∀ t' j', FileTree.SameBut (fun place => t.locate true (root.joinText fileName) = .ok place) t t' →
        read t' (root.joinText fileName) = .ok j' →
        (j.Rearranged j' ∨
          (key? j renderedKey).isSome ∧ key? j' renderedKey = key? j renderedKey) →
        (discover t' root).value = some m := by
  obtain ⟨m, found, lists⟩ := lists_discover h shaped
  have described (source table : String) (tb : Table) (known : m.table? source table = some tb) :
      Described t tb := by
    obtain ⟨-, -, rfl⟩ := (lists.listed source table tb).1 known
    exact described_declaredTable t root source table
  refine ⟨m, found, lists, described, fun t' j' same h' alike => ?_⟩
  obtain ⟨shaped', declares⟩ : Shaped j' ∧
      ∀ source table, Declares j source table ↔ Declares j' source table := by
    rcases alike with rearranged | ⟨filled, equal⟩
    · exact ⟨shaped_of_rearranged rearranged (keysOnce_of_read h') shaped, fun source table =>
        ⟨declares_of_rearranged rearranged, declares_of_rearranged rearranged.symm⟩⟩
    · have filled' : (key? j' renderedKey).isSome := equal ▸ filled
      exact ⟨(of_rendered filled equal).1 shaped, fun source table =>
        ⟨(of_rendered filled equal).2 source table, (of_rendered filled' equal.symm).2 source table⟩⟩
  obtain ⟨m', found', lists'⟩ := lists_discover h' shaped'
  obtain ⟨fields, rfl⟩ := shaped.exists_object
  obtain ⟨fields', rfl⟩ := shaped'.exists_object
  have tables (source table : String) :
      declaredTable t' root source table = declaredTable t root source table := by
    rw [declaredTable, declaredTable, same.isFile, value_loadSchema_of_same same h h']
  have equal : m' = m := by
    refine lists'.unique lists (fun source table tb => ?_) ?_
    · rw [declares, same.isFile, tables]
    · rintro source table tb _ _ - rfl rfl
      rfl
  rw [found', equal]

/-! ### A tree with a manifest -/

/-- A tree of a manifest and of what else is in the working directory. -/
def withManifest (manifest : String) (entries : List (Name × Files.Node)) : FileTree where
  root := .directory ((.ofString fileName, .file (Text.octets manifest)) :: entries)
  work := []

section WithManifest

variable {manifest : String} {entries : List (Name × Files.Node)}

theorem withManifest_directory : (withManifest manifest entries).isDirectory here := by
  rw [FileTree.isDirectory, here, FileTree.node_dot (t := withManifest manifest entries) rfl]

theorem withManifest_descend : (withManifest manifest entries).root.descend [.ofString fileName] =
    some (.file (Text.octets manifest)) := by
  simp [withManifest, Files.Node.named?]

theorem withManifest_locate (proper : (withManifest manifest entries).Proper) :
    (withManifest manifest entries).locate true (here.joinText fileName) =
      .ok [.ofString fileName] := by
  have path : here.joinText fileName = [Name.ofString fileName].foldl Path.child here :=
    Path.joinText_of_part (by decide) here
  have located : (withManifest manifest entries).locate true here = .ok [] :=
    FileTree.locate_dot rfl
  rw [path]
  exact FileTree.locate_below proper located rfl withManifest_descend (by simp) (by decide)

/-- The manifest of such a tree is read as what it spells. -/
theorem read_withManifest (proper : (withManifest manifest entries).Proper)
    (parsed : Json.read manifest = .ok j) :
    read (withManifest manifest entries) (here.joinText fileName) = .ok j :=
  read_of_node (FileTree.node_of_locate (withManifest_locate proper) withManifest_descend) parsed

/-- A file below the working directory is found along its names. -/
theorem isFile_withManifest (proper : (withManifest manifest entries).Proper) {way : List Name}
    {contents : List UInt8}
    (down : (withManifest manifest entries).root.descend way = some (.file contents))
    (short : (way.foldl Path.child here).octets.length ≤ FileTree.longestPath) :
    (withManifest manifest entries).isFile (way.foldl Path.child here) := by
  have leads : (withManifest manifest entries).node here = .ok (withManifest manifest entries).root :=
    FileTree.node_dot rfl
  rw [FileTree.isFile, FileTree.node_below proper leads down (by simp) short]

end WithManifest

/-! ### A manifest of one table -/

/-- A manifest with the path of a table of orders, twice, and with something under sources. -/
def ordersText : String :=
  "\x7b\"sources\": 1, \"renderedFiles\": \x7b\"sales\": [" ++
    "\"static/data/sales/orders/orders.parquet\", \"static/data/sales/orders/orders.parquet\"]\x7d\x7d"

/-- What the manifest says. -/
def ordersManifest : Json := .object [
  ("sources", .integer 1),
  ("renderedFiles", .object [("sales", Json.texts [
    "static/data/sales/orders/orders.parquet", "static/data/sales/orders/orders.parquet"])])]

set_option maxRecDepth 40000 in
theorem read_ordersText : Json.read ordersText = .ok ordersManifest := by
  rfl

/-- The same manifest with its keys the other way round. -/
def swappedText : String :=
  "\x7b\"renderedFiles\": \x7b\"sales\": [" ++
    "\"static/data/sales/orders/orders.parquet\", \"static/data/sales/orders/orders.parquet\"]\x7d, " ++
    "\"sources\": 1\x7d"

def swappedManifest : Json := .object [
  ("renderedFiles", .object [("sales", Json.texts [
    "static/data/sales/orders/orders.parquet", "static/data/sales/orders/orders.parquet"])]),
  ("sources", .integer 1)]

set_option maxRecDepth 40000 in
theorem read_swappedText : Json.read swappedText = .ok swappedManifest := by
  rfl

/-- A tree of a manifest and the directory of the table, with a schema file. -/
def treeOf (manifest : String) : FileTree where
  root := .directory [
    (.ofString "manifest.json", .file (Text.octets manifest)),
    (.ofString "sales", .directory [(.ofString "orders", .directory [
      (.ofString "orders.parquet", .file []),
      (.ofString "orders.schema.json", .file (Text.octets "[]"))])])]
  work := []

/-- The tree of the manifest of orders. -/
def ordersTree : FileTree := treeOf ordersText

/-- The names in a tree of orders are such that a directory can hold them. -/
theorem treeOf_proper (manifest : String) : (treeOf manifest).Proper := by
  apply FileTree.proper_of_names
  intro n member
  have all : ∀ n ∈ [Name.ofString "manifest.json", .ofString "sales", .ofString "orders",
      .ofString "orders.parquet", .ofString "orders.schema.json"], n.Proper := by decide
  exact all n member

theorem ordersTree_proper : ordersTree.Proper := treeOf_proper ordersText

theorem treeOf_manifest (manifest : String) :
    (treeOf manifest).root.descend [.ofString "manifest.json"] =
      some (.file (Text.octets manifest)) :=
  withManifest_descend

theorem treeOf_locate (manifest : String) : (treeOf manifest).locate true (here.joinText fileName) =
    .ok [.ofString "manifest.json"] :=
  withManifest_locate (treeOf_proper manifest)

/-- The manifest of a tree of orders is read as what it spells. -/
theorem read_treeOf {manifest : String} (parsed : Json.read manifest = .ok j) :
    read (treeOf manifest) (here.joinText fileName) = .ok j :=
  read_withManifest (treeOf_proper manifest) parsed

/-- Trees of two manifests differ in the manifest only. -/
theorem sameBut_treeOf (manifest manifest' : String) :
    FileTree.SameBut (fun place => (treeOf manifest).locate true (here.joinText fileName) = .ok place)
      (treeOf manifest) (treeOf manifest') where
  work := rfl
  outline := by
    intro place
    cases place with
    | nil => rfl
    | cons n place =>
      by_cases same : Name.ofString "manifest.json" = n
      · cases place with
        | nil => simp [treeOf, Files.Node.named?, same, Files.Node.outline]
        | cons m place => simp [treeOf, Files.Node.named?, same, Files.Node.descend]
      · simp [treeOf, Files.Node.named?, same]
  contents := by
    intro place contents unchanged found
    cases place with
    | nil => simp [treeOf] at found
    | cons n place =>
      by_cases same : Name.ofString "manifest.json" = n
      · subst same
        rcases Files.Node.descend_directory_cases found with ⟨-, below⟩ | below
        · obtain rfl := Files.Node.eq_nil_of_descend_file below
          exact absurd (treeOf_locate manifest) unchanged
        · have other : Name.ofString "sales" ≠ .ofString "manifest.json" := by decide
          simp [Files.Node.named?, other] at below
      · simpa [treeOf, Files.Node.named?, same] using found

theorem ordersManifest_shaped : Shaped ordersManifest :=
  .rendered rfl (by simp)

/-- The path of the table names it. -/
theorem ordersManifest_declares {source table : String} :
    Declares ordersManifest source table ↔ source = "sales" ∧ table = "orders" := by
  have named : tableOf? "static/data/sales/orders/orders.parquet" = some "orders" := by
    decide
  constructor
  · rintro (@⟨_, paths, path, here, listed, member, names⟩ | ⟨bare, -, -, -, -⟩)
    · obtain rfl := Json.object.inj (Option.some.inj here)
      rw [Json.lookup?] at listed
      split at listed
      · next same =>
        obtain rfl := Json.texts_injective (Option.some.inj listed)
        obtain rfl : path = "static/data/sales/orders/orders.parquet" := by simpa using member
        rw [← tableOf?_eq_some_iff, named] at names
        exact ⟨same.symm, (Option.some.inj names).symm⟩
      · cases listed
    · cases bare
  · rintro ⟨rfl, rfl⟩
    exact .rendered rfl rfl List.mem_cons_self (tableOf?_eq_some_iff.1 named)

theorem swappedManifest_rearranged : ordersManifest.Rearranged swappedManifest :=
  .of_perm (by decide) (.swap _ _ _)

/-- The data file of orders is there. -/
theorem ordersTree_file : ordersTree.isFile (dataPath here "sales" "orders") := by
  have down : ordersTree.root.descend
      [.ofString "sales", .ofString "orders", .ofString "orders.parquet"] = some (.file []) := by
    have other : Name.ofString "manifest.json" ≠ .ofString "sales" := by decide
    simp [ordersTree, treeOf, Files.Node.named?, other]
  have name : "orders" ++ "." ++ parquetExtension = "orders.parquet" := by decide
  rw [dataPath_of_parts (by decide) (by decide), name]
  exact isFile_withManifest ordersTree_proper down (by decide)

/-- The table of orders is what the manifest leads to, in either form. -/
theorem ordersTree_orders :
    read ordersTree (here.joinText fileName) = .ok ordersManifest ∧ Shaped ordersManifest ∧
    read (treeOf swappedText) (here.joinText fileName) = .ok swappedManifest ∧
    ∃ m, (discover ordersTree here).value = some m ∧
      m.table? "sales" "orders" = some (declaredTable ordersTree here "sales" "orders") ∧
      (discover (treeOf swappedText) here).value = some m := by
  have orders : read ordersTree (here.joinText fileName) = .ok ordersManifest :=
    read_treeOf read_ordersText
  have swapped : read (treeOf swappedText) (here.joinText fileName) = .ok swappedManifest :=
    read_treeOf read_swappedText
  obtain ⟨m, found, lists, -, stable⟩ := declared_tables_exact orders ordersManifest_shaped
  refine ⟨orders, ordersManifest_shaped, swapped, m, found, ?_, ?_⟩
  · exact (lists.listed _ _ _).2 ⟨ordersManifest_declares.2 ⟨rfl, rfl⟩, ordersTree_file, rfl⟩
  · exact stable _ _ (sameBut_treeOf ordersText swappedText) swapped
      (.inl swappedManifest_rearranged)

end DataShelf.Catalog.Manifest
