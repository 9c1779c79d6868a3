import DataShelf.Proofs.Confinement

/-!
# Changes to schema files

A catalog without the fields of its tables is its outline (`Catalog.outline`). No field decides
whether there is a table, so what lists the tables of a map lists the outlines of the tables of its
outline (`SourceMap.Lists.outline`), and trees that differ in a file that is not the manifest give
catalogs with one outline (`outline_discover`). The fields are those of the schema file
(`described_of_build`), and so only the tables of the changed file may have others
(`schema_changes_fields_only`).
-/

namespace DataShelf
set_option autoImplicit false

namespace Files.FileTree

variable {t : FileTree} {place : List Name} {n : Name} {entries : List (Name × Node)}
  {old : List UInt8}

/-- The tree with other contents in the file of a name in the directory at a place. -/
def withContents (t : FileTree) (place : List Name) (n : Name) (contents : List UInt8) : FileTree :=
  t.alter place (Node.putEntry n (.file contents))

/-- A way leads to the file, or to the same as before. -/
theorem descend_withContents_cases (here : t.root.descend place = some (.directory entries))
    (there : Node.named? n entries = some (.file old)) (contents : List UInt8) (way : List Name) :
    (way = place ++ [n] ∧ t.root.descend way = some (.file old) ∧
      (t.withContents place n contents).root.descend way = some (.file contents)) ∨
    ((t.withContents place n contents).root.descend way).map Node.shell =
      (t.root.descend way).map Node.shell := by
  show _ ∨ ((t.root.alter _ place).descend way).map Node.shell = _
  by_cases through : place <+: way
  · obtain ⟨rest, rfl⟩ := through
    have after : (t.root.alter (Node.putEntry n (.file contents)) place).descend (place ++ rest) =
      (Node.directory (Node.putEntry n (.file contents) entries)).descend rest :=
        Node.descend_alter_below here rest
    have before : t.root.descend (place ++ rest) = (Node.directory entries).descend rest := by
      rw [Node.descend_append, here, Option.bind_some]
    match rest with
    | [] => exact .inr (by rw [after, before]; rfl)
    | m :: rest =>
      rw [Node.descend_cons, Node.named?_putEntry] at after
      rw [Node.descend_cons] at before
      by_cases same : m = n
      · subst same
        rw [if_pos rfl, Option.bind_some] at after
        rw [there, Option.bind_some] at before
        cases rest with
        | nil => exact .inl ⟨rfl, before, after⟩
        | cons k rest => exact .inr (by rw [after, before]; rfl)
      · rw [if_neg same] at after
        exact .inr (by rw [after, before])
  · exact .inr (Node.shell_descend_alter here through)

/-- The file that got other contents has these. -/
theorem descend_withContents (here : t.root.descend place = some (.directory entries)) (n : Name)
    (contents : List UInt8) :
    (t.withContents place n contents).root.descend (place ++ [n]) = some (.file contents) := by
  show (t.root.alter _ place).descend (place ++ [n]) = _
  rw [Node.descend_alter_below here, Node.descend_cons, Node.named?_putEntry, if_pos rfl]
  rfl

/-- Only what the file holds differs. -/
theorem sameBut_withContents (here : t.root.descend place = some (.directory entries))
    (there : Node.named? n entries = some (.file old)) (contents : List UInt8) :
    SameBut (fun other => other = place ++ [n]) t (t.withContents place n contents) where
  work := rfl
  outline := by
    intro way
    rcases descend_withContents_cases here there contents way with ⟨-, before, after⟩ | same
    · rw [after, before]
      rfl
    · have shell (node : Node) : node.shell.outline = node.outline := by cases node <;> rfl
      have outlines := congrArg (Option.map Node.outline) same
      simpa only [Option.map_map, Function.comp_def, shell] using outlines
  contents := by
    intro way held unchanged found
    rcases descend_withContents_cases here there contents way with ⟨changed, -⟩ | same
    · exact absurd changed unchanged
    · rw [found, Option.map_some] at same
      obtain ⟨node, after, shell⟩ := Option.map_eq_some_iff.1 same
      cases node <;> simp_all [Node.shell]

end Files.FileTree

namespace Catalog

open Files (Name Path FileTree)

/-! ### Outlines -/

namespace NameMap

variable {α β : Type}

/-- The values of a map changed one by one. -/
def map (f : α → β) (m : NameMap α) : NameMap β where
  entries := m.entries.map fun e => (e.1, f e.2)
  sorted := List.pairwise_map.2 m.sorted

/-- What is found in a mapped map is the map of what is found. -/
theorem get?_map (f : α → β) (m : NameMap α) (name : String) :
    (m.map f).get? name = (m.get? name).map f := by
  rw [get?, get?, map, List.find?_map, Option.map_map, Option.map_map]
  rfl

@[simp] theorem isEmpty_map (f : α → β) (m : NameMap α) : (m.map f).isEmpty = m.isEmpty := by
  rw [isEmpty, isEmpty, map, List.isEmpty_map]

theorem mem_values_map {f : α → β} {m : NameMap α} {b : β} :
    b ∈ (m.map f).values ↔ ∃ a ∈ m.values, f a = b := by
  simp only [values, map, List.map_map, List.mem_map, exists_exists_and_eq_and]
  rfl

/-- A map stays keyed by names when its values keep theirs. -/
theorem KeyedBy.map {key : α → String} {key' : β → String} {f : α → β} {m : NameMap α}
    (h : m.KeyedBy key) (kept : ∀ a, key' (f a) = key a) : (m.map f).KeyedBy key' := by
  intro e member
  obtain ⟨e, entry, rfl⟩ := List.mem_map.1 member
  exact (kept e.2).trans (h e entry)

end NameMap

/-- A table without its fields. -/
def Table.outline (tb : Table) : Table := { tb with schemaFields := [] }

/-- A source without the fields of its tables. -/
def Source.outline (s : Source) : Source := { s with tables := s.tables.map Table.outline }

/-- Sources without the fields of their tables. -/
def SourceMap.outline (m : SourceMap) : SourceMap := NameMap.map Source.outline m

/-- A catalog without the fields of its tables. -/
def outline (c : Catalog) : Catalog := { c with sources := c.sources.outline }

/-- The outline of a table is all of it but for its fields. -/
theorem Table.outline_eq_iff {tb tb' : Table} : tb'.outline = tb.outline ↔
    tb'.name = tb.name ∧ tb'.dataFile = tb.dataFile ∧ tb'.schemaFile = tb.schemaFile ∧
      tb'.kind = tb.kind := by
  obtain ⟨name, data, schema, fields, kind⟩ := tb
  obtain ⟨name', data', schema', fields', kind'⟩ := tb'
  simp [outline]

/-- The outline of a map has the outlines of its tables. -/
theorem SourceMap.table?_outline (m : SourceMap) (source table : String) :
    m.outline.table? source table = (m.table? source table).map Table.outline := by
  rw [table?, table?, SourceMap.outline, NameMap.get?_map]
  cases m.get? source with
  | none => rfl
  | some s => exact NameMap.get?_map Table.outline s.tables table

/-- The outline of a map lists the outlines of the tables that the map lists. -/
theorem SourceMap.Lists.outline {m : SourceMap} {Located : String → Path → Prop}
    {Listed : String → String → Table → Prop} (h : m.Lists Located Listed) :
    m.outline.Lists Located
      (fun source table tb => ∃ tb₀, Listed source table tb₀ ∧ tb₀.outline = tb) where
  keyed := h.keyed.map fun _ => rfl
  filled := by
    intro s member
    obtain ⟨s, known, rfl⟩ := NameMap.mem_values_map.1 member
    rw [Source.outline, NameMap.isEmpty_map]
    exact h.filled s known
  located := by
    intro s member
    obtain ⟨s, known, rfl⟩ := NameMap.mem_values_map.1 member
    exact h.located s known
  listed := by
    intro source table tb
    rw [SourceMap.table?_outline, Option.map_eq_some_iff]
    simp only [h.listed]

/-- Maps that list tables with one outline, with the sources at the same places, have one outline. -/
theorem SourceMap.Lists.outline_unique {m m' : SourceMap} {Located Located' : String → Path → Prop}
    {Listed Listed' : String → String → Table → Prop} (h : m.Lists Located Listed)
    (h' : m'.Lists Located' Listed')
    (listed : ∀ source table tb, Listed source table tb →
      ∃ tb', Listed' source table tb' ∧ tb'.outline = tb.outline)
    (listed' : ∀ source table tb', Listed' source table tb' →
      ∃ tb, Listed source table tb ∧ tb.outline = tb'.outline)
    (located : ∀ source table tb p p', Listed source table tb → Located source p →
      Located' source p' → p = p') : m'.outline = m.outline := by
  refine (h.outline.unique h'.outline (fun source table tb => ⟨?_, ?_⟩) ?_).symm
  · rintro ⟨tb, there, rfl⟩
    exact listed source table tb there
  · rintro ⟨tb', there, rfl⟩
    exact listed' source table tb' there
  · rintro source table _ p p' ⟨tb, there, rfl⟩ here here'
    exact located source table tb p p' there here here'

variable {t t' : FileTree} {root : Path} {place : List Name} {Changed : List Name → Prop}

/-! ### The same tables -/

namespace Manifest

theorem outline_declaredTable (same : FileTree.SameBut Changed t t') (source table : String) :
    (declaredTable t' root source table).outline = (declaredTable t root source table).outline := by
  rw [declaredTable, declaredTable, same.isFile]
  split <;> rfl

/-- The outline of what a manifest declares does not look into files. -/
theorem outline_ofDeclared (same : FileTree.SameBut Changed t t') (declared : NameMap (List String)) :
    (ofDeclared t' root declared).value.outline = (ofDeclared t root declared).value.outline := by
  refine (lists_ofDeclared t root declared).outline_unique (lists_ofDeclared t' root declared)
    ?_ ?_ ?_
  · rintro source table tb ⟨known, made⟩
    obtain ⟨there, rfl⟩ := declared?_eq_some_iff.1 made
    refine ⟨_, ⟨known, declared?_eq_some_iff.2 ⟨?_, rfl⟩⟩, outline_declaredTable same source table⟩
    rwa [same.isFile]
  · rintro source table tb ⟨known, made⟩
    obtain ⟨there, rfl⟩ := declared?_eq_some_iff.1 made
    refine ⟨_, ⟨known, declared?_eq_some_iff.2 ⟨?_, rfl⟩⟩,
      (outline_declaredTable same source table).symm⟩
    rwa [same.isFile] at there
  · rintro source table tb _ _ - rfl rfl
    rfl

/-- A manifest that reads the same gives sources with one outline. -/
theorem outline_discover (same : FileTree.SameBut Changed t t')
    (kept : ∀ place, t.locate true (root.joinText fileName) = .ok place → ¬Changed place) :
    (discover t' root).value.map SourceMap.outline = (discover t root).value.map SourceMap.outline := by
  have reads : read t' (root.joinText fileName) = read t (root.joinText fileName) := by
    rw [read, read, same.readText kept]
  cases there : read t (root.joinText fileName) with
  | ok j =>
    rw [value_discover_of_read there, value_discover_of_read (reads.trans there), Option.map_map,
      Option.map_map]
    simp only [Function.comp_def, outline_ofDeclared same]
  | error message =>
    have nothing {t : FileTree} (failed : read t (root.joinText fileName) = .error message) :
        (discover t root).value = none := by
      simp only [discover, failed]
      split
      · rw [Traced.value_bind, Traced.value_pure]
      · rfl
    rw [nothing there, nothing (reads.trans there)]

end Manifest

namespace Scan

/-- The same directories are tables, with the same outline. -/
theorem exists_isTable {directory : Path} {name : String} {tb : Table}
    (same : FileTree.SameBut Changed t t') (h : IsTable t NamedAsSchema directory name tb) :
    ∃ tb', IsTable t' NamedAsSchema directory name tb' ∧ tb'.outline = tb.outline := by
  refine ⟨{ tb with schemaFields := (tb.schemaFile.map fun p => (loadSchema t' p).value).getD [] },
    ⟨h.named, ?_, ?_, rfl, h.kind⟩, rfl⟩
  · simpa only [same.sees_iff] using h.data
  · simpa only [same.sees_iff] using h.schema

/-- The same directories are tables of a source, with the same outline. -/
theorem exists_isDirectoryTable {source table : String} {tb : Table}
    (same : FileTree.SameBut Changed t t')
    (h : IsDirectoryTable t NamedAsSchema root source table tb) :
    ∃ tb', IsDirectoryTable t' NamedAsSchema root source table tb' ∧ tb'.outline = tb.outline := by
  obtain ⟨tb', found, alike⟩ := exists_isTable same h.found
  exact ⟨tb', ⟨h.visible, same.hasDirectory h.outer, same.hasDirectory h.inner, found⟩, alike⟩

/-- A scan of trees with the same files finds sources with one outline. -/
theorem outline_discover (proper : t.Proper) (same : FileTree.SameBut Changed t t') (root : Path) :
    (discover t' root).value.outline = (discover t root).value.outline := by
  have scripts (script : Path) : IsScript t' root script ↔ IsScript t root script := by
    rw [IsScript, IsScript, same.reaches_iff]
  by_cases scripted : ∃ script, IsScript t root script
  · have scripted' : ∃ script, IsScript t' root script := by simpa only [scripts] using scripted
    have lists := lists_scripts (same.proper proper) scripted'
    simp only [scripts] at lists
    refine (lists_scripts proper scripted).outline_unique lists ?_ ?_ ?_
    · exact fun source table tb listed => ⟨tb, listed, rfl⟩
    · exact fun source table tb listed => ⟨tb, listed, rfl⟩
    · rintro source table tb p p' - ⟨script, least, parent⟩ ⟨script', least', parent'⟩
      obtain rfl := least.unique least'
      exact Option.some.inj (parent.symm.trans parent')
  · have plain : ¬∃ script, IsScript t' root script := by simpa only [scripts] using scripted
    have lists := lists_directories (same.proper proper) plain
    refine (lists_directories proper scripted).outline_unique lists ?_ ?_ ?_
    · exact fun source table tb => exists_isDirectoryTable same
    · exact fun source table tb => exists_isDirectoryTable same.symm
    · rintro source table tb _ _ - rfl rfl
      rfl

end Scan

/-! ### Catalogs -/

/-- Discovery leads to the same outline as long as the manifest is the same. -/
theorem outline_discover (proper : t.Proper) (same : FileTree.SameBut Changed t t')
    (kept : ∀ place, t.locate true (root.joinText Manifest.fileName) = .ok place → ¬Changed place) :
    (discover t' root).value.map id SourceMap.outline =
      (discover t root).value.map id SourceMap.outline := by
  have given := Manifest.outline_discover same kept
  have scanned : (discover.scan t' root).value.map id SourceMap.outline =
      (discover.scan t root).value.map id SourceMap.outline := by
    rw [value_scan, value_scan, Prod.map_apply, Prod.map_apply, Scan.outline_discover proper same]
  simp only [discover, Traced.value_bind]
  cases there : (Manifest.discover t root).value with
  | none =>
    have there' : (Manifest.discover t' root).value = none := by simpa [there] using given
    rw [there']
    exact scanned
  | some m =>
    rw [there, Option.map_some] at given
    obtain ⟨m', there', alike⟩ := Option.map_eq_some_iff.1 given
    have empty : m'.isEmpty = m.isEmpty := by
      simpa [SourceMap.outline] using congrArg NameMap.isEmpty alike
    simp only [there', empty]
    split
    · exact scanned
    · exact congrArg (Prod.mk Origin.manifest) alike

theorem table_eq_ok_iff_table? {c : Catalog} {source table : String} {tb : Table} :
    c.table source table = .ok tb ↔ c.sources.table? source table = some tb :=
  table_eq_ok_iff.trans Option.bind_eq_some_iff.symm

/-- The fields of a table are those that its schema file describes. -/
theorem described_of_build (proper : t.Proper) {c : Catalog} (built : (build t root).value = .ok c)
    {source table : String} {tb : Table} (found : c.table source table = .ok tb) :
    tb.schemaFields = (tb.schemaFile.map fun p => (loadSchema t p).value).getD [] := by
  obtain ⟨rfl, directory, given, scanned⟩ := sources_of_build built
  rw [table_eq_ok_iff_table?] at found
  cases origin : c.origin with
  | manifest =>
    obtain ⟨names, same⟩ := Manifest.exists_declared (given origin)
    rw [same] at found
    obtain ⟨-, made⟩ := ((Manifest.lists_ofDeclared t c.root names).listed _ _ _).1 found
    rw [(Manifest.declared?_eq_some_iff.1 made).2, Manifest.declaredTable]
    split <;> rfl
  | directoryScan =>
    rw [scanned origin] at found
    by_cases scripted : ∃ script, Scan.IsScript t c.root script
    · obtain ⟨script, -, rfl⟩ := ((Scan.lists_scripts proper scripted).listed _ _ _).1 found
      rfl
    · exact (((Scan.lists_directories proper scripted).listed _ _ _).1 found).found.fields

/-- A catalog is built for a directory and for nothing else. -/
theorem build_of_directory (directory : t.isDirectory root) :
    (build t root).value = .ok ⟨root, (discover t root).value.1, (discover t root).value.2⟩ := by
  rw [build, if_pos directory]
  rfl

theorem value_loadSchema_of_unchanged (same : FileTree.SameBut Changed t t') {p : Path}
    (kept : ∀ place, t.locate true p = .ok place → ¬Changed place) :
    (loadSchema t' p).value = (loadSchema t p).value := by
  rw [loadSchema, loadSchema, same.readText kept]

/-- **Changes to schema files.** Where two trees differ only in what a file holds that is not the
manifest, no catalog is built in either or one in both, and then the two have the same sources with the
same tables, and the same fields for each table whose schema file is not the changed file. -/
theorem schema_changes_fields_only (proper : t.Proper)
    (same : FileTree.SameBut (fun other => other = place) t t')
    (aside : t.locate true (root.joinText Manifest.fileName) ≠ .ok place) :
    match (build t root).value, (build t' root).value with
    | .error e, .error e' => e' = e
    | .ok c, .ok c' =>
      c'.outline = c.outline ∧
      ∀ source table tb tb', c.table source table = .ok tb → c'.table source table = .ok tb' →
        tb'.outline = tb.outline ∧
        ((∀ p ∈ tb.schemaFile, t.locate true p ≠ .ok place) → tb'.schemaFields = tb.schemaFields)
    | _, _ => False := by
  have kept : ∀ other, t.locate true (root.joinText Manifest.fileName) = .ok other → other ≠ place :=
    fun other there here => aside (here ▸ there)
  by_cases directory : t.isDirectory root
  · have directory' : t'.isDirectory root := by rwa [same.isDirectory]
    obtain ⟨origin, sources⟩ := Prod.mk.inj (outline_discover proper same kept)
    have built := build_of_directory directory
    have built' := build_of_directory directory'
    rw [built, built']
    refine ⟨?_, fun source table tb tb' found found' => ?_⟩
    · rw [outline, outline]
      exact congrArg₂ (Catalog.mk root) origin sources
    · have alike : tb'.outline = tb.outline := by
        have listed := congrArg (fun m => SourceMap.table? m source table) sources
        simpa [SourceMap.table?_outline, table_eq_ok_iff_table?.1 found,
          table_eq_ok_iff_table?.1 found'] using listed
      refine ⟨alike, fun elsewhere => ?_⟩
      have schema : tb'.schemaFile = tb.schemaFile := (Table.outline_eq_iff.1 alike).2.2.1
      rw [described_of_build (same.proper proper) built' found', described_of_build proper built found,
        schema]
      cases known : tb.schemaFile with
      | none => rfl
      | some p =>
        refine value_loadSchema_of_unchanged same fun other there here => ?_
        exact elsewhere p known (here ▸ there)
  · have away : t'.isDirectory root ≠ true := by rwa [same.isDirectory]
    rw [build, build, if_neg directory, if_neg away]
    rfl

/-- The way to the schema file of the orders. -/
def ordersSchema : List Name :=
  [.ofString "sales", .ofString "orders", .ofString "orders.schema.json"]

/-- The tree of orders with other contents in its schema file. -/
def withOrdersSchema (contents : List UInt8) : FileTree :=
  Manifest.ordersTree.withContents [.ofString "sales", .ofString "orders"]
    (.ofString "orders.schema.json") contents

theorem ordersTree_descend :
    Manifest.ordersTree.root.descend [.ofString "sales", .ofString "orders"] = some (.directory [
      (.ofString "orders.parquet", .file []),
      (.ofString "orders.schema.json", .file (Text.octets "[]"))]) := by
  rfl

theorem sameBut_withOrdersSchema (contents : List UInt8) :
    FileTree.SameBut (fun other => other = ordersSchema) Manifest.ordersTree
      (withOrdersSchema contents) :=
  FileTree.sameBut_withContents ordersTree_descend rfl contents

theorem ordersSchema_aside :
    Manifest.ordersTree.locate true (here.joinText Manifest.fileName) ≠ .ok ordersSchema := by
  rw [Manifest.ordersTree, Manifest.treeOf_locate]
  decide

/-- With a schema file of orders that is cut off there still is the table of orders. -/
theorem ordersTree_schema_changes :
    let orders := [Name.ofString "sales", .ofString "orders"]
    let cut := Manifest.ordersTree.withContents orders (.ofString "orders.schema.json")
      (Text.octets "[")
    Manifest.ordersTree.Proper ∧
    FileTree.SameBut (fun other => other = orders ++ [.ofString "orders.schema.json"])
      Manifest.ordersTree cut ∧
    ∃ c c', (build Manifest.ordersTree here).value = .ok c ∧ (build cut here).value = .ok c' ∧
      c'.outline = c.outline := by
  intro orders cut
  have proper := Manifest.ordersTree_proper
  have same : FileTree.SameBut (fun other => other = orders ++ [.ofString "orders.schema.json"])
      Manifest.ordersTree cut := sameBut_withOrdersSchema _
  have directory : Manifest.ordersTree.isDirectory here := Manifest.withManifest_directory
  have directory' : cut.isDirectory here := by rwa [same.isDirectory]
  have changes := schema_changes_fields_only proper same ordersSchema_aside
  have built := build_of_directory directory
  have built' := build_of_directory directory'
  -- The two trees are closed terms, which are not to be evaluated.
  generalize (build Manifest.ordersTree here).value = before at changes built
  generalize (build cut here).value = after at changes built'
  subst built built'
  exact ⟨proper, same, _, _, rfl, rfl, changes.1⟩

end Catalog
end DataShelf
