import DataShelf.Proofs.ScriptTables
import DataShelf.Proofs.TreeChanges

/-!
# The tables of directories

Where a scan comes to no script, the directories in the root are sources and the directories in those
are tables, if there is a data file below them (`Scan.IsDirectoryTable`). Of several data files the
least counts, and of several schema files the least (`Scan.IsTable`). Tables are added one by one to
their source and sources one by one to the map; each directory has a name of its own, so what is
found is what was made of all of them (`get?_source`, `get?_ofDirectories`).
-/

namespace DataShelf.Files
set_option autoImplicit false

namespace FileTree

variable {t : FileTree} {p q : Path} {n : Name}

/-- A directory holds a directory of a name, or a link to one. -/
structure HasDirectory (t : FileTree) (p : Path) (n : Name) : Prop where
  entry : ∃ entries node, t.node p = .ok (.directory entries) ∧ Node.named? n entries = some node
  leads : t.isDirectory (p.child n)

theorem HasDirectory.name (h : t.HasDirectory p n) (proper : t.Proper) : n.Proper := by
  obtain ⟨entries, node, found, named⟩ := h.entry
  obtain ⟨start, there, -, -, here⟩ := node_eq_ok_iff.1 found
  exact proper there entries here _ (Node.mem_of_named? named)

theorem HasDirectory.fileName? (h : t.HasDirectory p n) (proper : t.Proper) :
    (p.child n).fileName? = some n :=
  Path.fileName?_child p (h.name proper).idle (h.name proper).up

/-- The directories in a directory are those of its entries. -/
theorem mem_subdirectories_iff :
    q ∈ (t.subdirectories p).value ↔ ∃ n, t.HasDirectory p n ∧ q = p.child n := by
  unfold subdirectories entries
  cases found : t.node p with
  | error e =>
    refine iff_of_false List.not_mem_nil ?_
    rintro ⟨n, ⟨⟨entries, node, here, -⟩, -⟩, -⟩
    simp [found] at here
  | ok node =>
    cases node with
    | directory entries =>
      simp only [Traced.value_pure, List.mem_filter, List.mem_map, mem_inOrder_iff]
      constructor
      · rintro ⟨⟨⟨n, node⟩, first, rfl⟩, leads⟩
        exact ⟨n, ⟨⟨entries, node, found, Node.named?_eq_some_iff.2 first⟩, leads⟩, rfl⟩
      · rintro ⟨n, ⟨⟨entries', node, here, first⟩, leads⟩, rfl⟩
        obtain rfl : entries = entries' := by simpa [found] using here
        exact ⟨⟨(n, node), Node.named?_eq_some_iff.1 first, rfl⟩, leads⟩
    | file contents =>
      refine iff_of_false List.not_mem_nil ?_
      rintro ⟨n, ⟨⟨entries, node, here, -⟩, -⟩, -⟩
      simp [found] at here
    | link target =>
      refine iff_of_false List.not_mem_nil ?_
      rintro ⟨n, ⟨⟨entries, node, here, -⟩, -⟩, -⟩
      simp [found] at here

/-- In a tree with the same outline directories hold the same directories. -/
theorem SameBut.hasDirectory {t' : FileTree} {Changed : List Name → Prop}
    (same : SameBut Changed t t') (h : t.HasDirectory p n) : t'.HasDirectory p n := by
  obtain ⟨⟨entries, node, found, named⟩, leads⟩ := h
  refine ⟨?_, by rwa [same.isDirectory]⟩
  rcases same.node_cases p with ⟨e, failed, -⟩ | ⟨place, _, node', -, here, there, found', leads', -⟩
  · simp [found] at failed
  · obtain rfl := Except.ok.inj (found.symm.trans found')
    obtain ⟨entries', there', alike⟩ := same.exists_directory here
    obtain rfl := Option.some.inj (there.symm.trans there')
    have outline := alike n
    rw [named, Option.map_some] at outline
    obtain ⟨next, named', -⟩ := Option.map_eq_some_iff.1 outline
    exact ⟨entries', next, leads', named'⟩

end FileTree
end DataShelf.Files

namespace DataShelf.Catalog.Scan
set_option autoImplicit false

open Files (Name Path FileTree)

variable {t t' : FileTree} {root : Path} {Schema : Path → Prop}

/-! ### What counts as a table -/

/-- What a scan makes of a directory with a data file below it. The data file is the least one that
the scan comes to, the schema file the least of those that count as such. -/
structure IsTable (t : FileTree) (Schema : Path → Prop) (directory : Path) (name : String)
    (tb : Table) : Prop where
  named : tb.name = name
  data : Path.Least (fun p => t.Sees directory p ∧ p.hasExtension parquetExtension) tb.dataFile
  schema : match tb.schemaFile with
    | some p => Path.Least (fun p => t.Sees directory p ∧ Schema p) p
    | none => ∀ p, t.Sees directory p → ¬Schema p
  fields : tb.schemaFields = (tb.schemaFile.map fun p => (loadSchema t p).value).getD []
  kind : tb.kind = .parquet

/-- A directory in a directory of the root with a data file below it. Names are texts, and that of
the source does not begin with a dot. -/
structure IsDirectoryTable (t : FileTree) (Schema : Path → Prop) (root : Path)
    (source table : String) (tb : Table) : Prop where
  visible : (Name.ofString source).isHidden = false
  outer : t.HasDirectory root (.ofString source)
  inner : t.HasDirectory (root.child (.ofString source)) (.ofString table)
  found : IsTable t Schema ((root.child (.ofString source)).child (.ofString table)) table tb

/-- A path whose file name is a text that ends as the names of schema files do. -/
def NamedAsSchema (p : Path) : Prop :=
  ∃ front : String, p.fileName? = some (.ofString (front ++ schemaSuffix))

theorem endsWith_iff {s ending : String} : s.endsWith ending ↔ ∃ front, s = front ++ ending := by
  rw [String.endsWith, String.Slice.endsWith_string_iff]
  constructor
  · rintro ⟨front, whole⟩
    exact ⟨String.ofList front, String.toList_injective (by simpa using whole.symm)⟩
  · rintro ⟨front, rfl⟩
    exact ⟨front.toList, by simp⟩

/-- The code looks at the end of a name that is text, as is said of schema files. -/
theorem isSchemaPath_iff {p : Path} : isSchemaPath p ↔ NamedAsSchema p := by
  unfold isSchemaPath NamedAsSchema
  cases named : p.fileName?.bind Name.text? with
  | none =>
    refine iff_of_false (by simp) ?_
    rintro ⟨front, found⟩
    simp [found] at named
  | some name =>
    obtain ⟨n, found, text⟩ := Option.bind_eq_some_iff.1 named
    obtain rfl := Name.text?_eq_some_iff.1 text
    simp only [endsWith_iff, found, Option.some.injEq]
    exact exists_congr fun front => ⟨congrArg _, fun same => Name.ofString_injective same⟩

/-- The table in a directory is that of the first data file and the first schema file found. -/
theorem value_table? (t : FileTree) (name : String) (directory : Path) :
    (table? t name directory).value =
      (t.findFiles directory fun p => p.hasExtension parquetExtension).value.head?.map fun file =>
        let schema := (t.findFiles directory isSchemaPath).value.head?
        Table.of name file schema ((schema.map fun p => (loadSchema t p).value).getD []) := by
  rw [table?, Traced.value_bind]
  cases (t.findFiles directory fun p => p.hasExtension parquetExtension).value with
  | nil => rfl
  | cons file others =>
    dsimp only
    rw [Traced.value_bind]
    cases (t.findFiles directory isSchemaPath).value <;> rfl

/-- The table in a directory is the one that counts there. -/
theorem value_table?_eq_some_iff {directory : Path} (proper : t.Proper)
    (leads : t.isDirectory directory) {name : String} {tb : Table} :
    (table? t name directory).value = some tb ↔ IsTable t NamedAsSchema directory name tb := by
  have data (q : Path) :
      (t.findFiles directory fun p => p.hasExtension parquetExtension).value.head? = some q ↔ _ :=
    FileTree.head?_findFiles_iff proper leads
  have schema (q : Path) : (t.findFiles directory isSchemaPath).value.head? = some q ↔ _ :=
    FileTree.head?_findFiles_iff proper leads
  have bare : (t.findFiles directory isSchemaPath).value.head? = none ↔
      ∀ q, t.Sees directory q → ¬NamedAsSchema q := by
    simp [List.eq_nil_iff_forall_not_mem, FileTree.mem_findFiles_iff _ leads, ← isSchemaPath_iff]
  simp only [isSchemaPath_iff] at schema
  rw [value_table?, Option.map_eq_some_iff]
  simp only [data]
  constructor
  · rintro ⟨file, least, rfl⟩
    refine ⟨rfl, least, ?_, rfl, TableKind.ofPath_of_parquet least.1.2⟩
    simp only [Table.of]
    split
    · next q described => exact (schema q).1 described
    · next missing => exact bare.1 missing
  · rintro ⟨rfl, least, described, fields, kind⟩
    obtain ⟨name, file, schemaFile, schemaFields, _⟩ := tb
    have found : (t.findFiles directory isSchemaPath).value.head? = schemaFile := by
      cases schemaFile with
      | none => exact bare.2 described
      | some q => exact (schema q).2 described
    refine ⟨file, least, ?_⟩
    simp only [found, Table.of, TableKind.ofPath_of_parquet least.1.2]
    rw [← fields, ← kind]

/-- A directory is one of a table if there is a data file below it. -/
theorem exists_isTable_iff {directory : Path} (proper : t.Proper) (leads : t.isDirectory directory)
    (name : String) :
    (∃ tb, IsTable t NamedAsSchema directory name tb) ↔
      ∃ p, t.Sees directory p ∧ p.hasExtension parquetExtension := by
  simp only [← value_table?_eq_some_iff proper leads, ← Option.isSome_iff_exists, value_table?,
    Option.isSome_map, List.isSome_head?]
  simp [List.eq_nil_iff_forall_not_mem, FileTree.mem_findFiles_iff _ leads]

/-! ### One directory after another -/

/-- The table that a directory adds to its source. -/
def tableIn? (t : FileTree) (directory : Path) : Option Table :=
  (directory.fileName?.bind Name.text?).bind fun name => (table? t name directory).value

/-- The source of a directory with all its tables. -/
def sourceIn (t : FileTree) (name : String) (directory : Path) : Source :=
  ((t.subdirectories directory).value.foldlM (addTable t) (.of name directory)).value

/-- The table of a directory is added to its source, if there is one. -/
theorem value_addTable (t : FileTree) (s : Source) (directory : Path) :
    (addTable t s directory).value = ((tableIn? t directory).map s.add).getD s := by
  unfold addTable tableIn?
  cases directory.fileName?.bind Name.text? with
  | none => rfl
  | some name =>
    simp only [Traced.value_bind, Option.bind_some]
    cases (table? t name directory).value <;> rfl

/-- A directory gives a table exactly if there is a data file below it, and then under its own
name. -/
theorem tableIn?_eq_some_iff {p : Path} {n : Name} (proper : t.Proper) (h : t.HasDirectory p n)
    {tb : Table} : tableIn? t (p.child n) = some tb ↔
      n = .ofString tb.name ∧ IsTable t NamedAsSchema (p.child n) tb.name tb := by
  rw [tableIn?, h.fileName? proper, Option.bind_some, Option.bind_eq_some_iff]
  simp only [value_table?_eq_some_iff proper h.leads, Name.text?_eq_some_iff]
  constructor
  · rintro ⟨name, rfl, found⟩
    rw [found.named]
    exact ⟨rfl, found⟩
  · rintro ⟨text, found⟩
    exact ⟨tb.name, text, found⟩

/-- The source of a directory has the tables that count in its directories. -/
theorem sourceIn_holds (proper : t.Proper) (name : String) (directory : Path) :
    ((sourceIn t name directory).name = name ∧ (sourceIn t name directory).path = directory) ∧
    ∀ table tb, (sourceIn t name directory).tables.get? table = some tb ↔
      t.HasDirectory directory (.ofString table) ∧
        IsTable t NamedAsSchema (directory.child (.ofString table)) table tb := by
  have step (s : Source) (keeps : s.name = name ∧ s.path = directory) (c : Path)
      (_ : c ∈ (t.subdirectories directory).value) :
      ((addTable t s c).value.name = name ∧ (addTable t s c).value.path = directory) ∧
        NameMap.Adds Table.name (tableIn? t c) s.tables (addTable t s c).value.tables := by
    rw [value_addTable]
    cases tableIn? t c with
    | none => exact ⟨keeps, .nothing _⟩
    | some tb => exact ⟨keeps, .new tb _⟩
  -- Directories of one name are one directory, so no two tables go by one name.
  have agree (c : Path) (member : c ∈ (t.subdirectories directory).value) (c' : Path)
      (member' : c' ∈ (t.subdirectories directory).value) (tb tb' : Table)
      (made : tableIn? t c = some tb) (made' : tableIn? t c' = some tb')
      (same : tb.name = tb'.name) : tb = tb' := by
    obtain ⟨n, here, rfl⟩ := FileTree.mem_subdirectories_iff.1 member
    obtain ⟨n', here', rfl⟩ := FileTree.mem_subdirectories_iff.1 member'
    obtain ⟨text, -⟩ := (tableIn?_eq_some_iff proper here).1 made
    obtain ⟨text', -⟩ := (tableIn?_eq_some_iff proper here').1 made'
    obtain rfl : n = n' := by rw [text, text', same]
    exact Option.some.inj (made.symm.trans made')
  have filled := NameMap.get?_foldlM (fun s => s.name = name ∧ s.path = directory) Source.tables
    (s := .of name directory) ⟨rfl, rfl⟩ rfl step agree
  refine ⟨filled.1, fun table tb => (filled.2 table tb).trans ?_⟩
  constructor
  · rintro ⟨rfl, c, member, made⟩
    obtain ⟨n, here, rfl⟩ := FileTree.mem_subdirectories_iff.1 member
    obtain ⟨rfl, found⟩ := (tableIn?_eq_some_iff proper here).1 made
    exact ⟨here, found⟩
  · rintro ⟨here, found⟩
    obtain rfl := found.named
    exact ⟨rfl, _, FileTree.mem_subdirectories_iff.2 ⟨_, here, rfl⟩,
      (tableIn?_eq_some_iff proper here).2 ⟨rfl, found⟩⟩

/-- The source that a directory adds to the map, if it has tables. -/
def sourceIn? (t : FileTree) (directory : Path) : Option Source := do
  let n ← directory.fileName?
  let name ← n.text?
  if n.isHidden || (sourceIn t name directory).tables.isEmpty then none
  else some (sourceIn t name directory)

/-- The source of a directory is added to the map, if there is one. -/
theorem value_addSource (proper : t.Proper) (m : SourceMap) (directory : Path) :
    (addSource t m directory).value =
      ((sourceIn? t directory).map fun s => m.insert s.name s).getD m := by
  unfold addSource sourceIn?
  cases directory.fileName? with
  | none => rfl
  | some n =>
    cases text : n.text? with
    | none => simp [text]
    | some name =>
      have kept := (sourceIn_holds proper name directory).1.1
      have whole : ((t.subdirectories directory).value.foldlM (addTable t)
        (.of name directory)).value = sourceIn t name directory := rfl
      cases hidden : n.isHidden with
      | true => simp [hidden, text]
      | false =>
        cases empty : (sourceIn t name directory).tables.isEmpty <;>
          simp [hidden, text, whole, kept, empty]

/-- A directory gives a source exactly if it is not hidden and some directory in it gives a
table. -/
theorem sourceIn?_eq_some_iff {n : Name} (proper : t.Proper) (h : t.HasDirectory root n)
    {s : Source} : sourceIn? t (root.child n) = some s ↔
      n = .ofString s.name ∧ n.isHidden = false ∧ s.tables.isEmpty = false ∧
        s = sourceIn t s.name (root.child n) := by
  simp only [sourceIn?, h.fileName? proper, Option.bind_eq_bind, Option.bind_some,
    Option.bind_eq_some_iff, Name.text?_eq_some_iff]
  constructor
  · rintro ⟨name, rfl, made⟩
    split at made
    · cases made
    · next counts =>
      obtain rfl := Option.some.inj made
      have kept := (sourceIn_holds proper name (root.child (.ofString name))).1.1
      simpa [kept] using counts
  · rintro ⟨text, visible, filled, same⟩
    refine ⟨s.name, text, ?_⟩
    rw [← same]
    simp [visible, filled]

/-- The map of a scan has the sources of all directories in the root. -/
theorem get?_ofDirectories (proper : t.Proper) (root : Path) (name : String) (s : Source) :
    (ofDirectories t root).value.get? name = some s ↔
      s.name = name ∧ t.HasDirectory root (.ofString name) ∧
        sourceIn? t (root.child (.ofString name)) = some s := by
  have step (m : SourceMap) (_ : True) (c : Path) (_ : c ∈ (t.subdirectories root).value) :
      True ∧ NameMap.Adds Source.name (sourceIn? t c) m (addSource t m c).value := by
    rw [value_addSource proper]
    cases sourceIn? t c with
    | none => exact ⟨trivial, .nothing _⟩
    | some s => exact ⟨trivial, .new s _⟩
  have agree (c : Path) (member : c ∈ (t.subdirectories root).value) (c' : Path)
      (member' : c' ∈ (t.subdirectories root).value) (s s' : Source)
      (made : sourceIn? t c = some s) (made' : sourceIn? t c' = some s')
      (same : s.name = s'.name) : s = s' := by
    obtain ⟨n, here, rfl⟩ := FileTree.mem_subdirectories_iff.1 member
    obtain ⟨n', here', rfl⟩ := FileTree.mem_subdirectories_iff.1 member'
    obtain ⟨text, -⟩ := (sourceIn?_eq_some_iff proper here).1 made
    obtain ⟨text', -⟩ := (sourceIn?_eq_some_iff proper here').1 made'
    obtain rfl : n = n' := by rw [text, text', same]
    exact Option.some.inj (made.symm.trans made')
  have filled := NameMap.get?_foldlM (fun _ => True) id trivial rfl step agree
  refine (filled.2 name s).trans (and_congr_right ?_)
  rintro rfl
  constructor
  · rintro ⟨c, member, made⟩
    obtain ⟨n, here, rfl⟩ := FileTree.mem_subdirectories_iff.1 member
    obtain rfl := ((sourceIn?_eq_some_iff proper here).1 made).1
    exact ⟨here, made⟩
  · rintro ⟨here, made⟩
    exact ⟨_, FileTree.mem_subdirectories_iff.2 ⟨_, here, rfl⟩, made⟩

/-! ### Trees of directories -/

theorem value_discover_of_no_script (plain : ¬∃ script, IsScript t root script) :
    (discover t root).value = (ofDirectories t root).value := by
  have empty : (t.findFiles root fun p => p.hasExtension sqlExtension).value = [] :=
    List.eq_nil_iff_forall_not_mem.2 fun script member =>
      plain ⟨script, mem_scripts_iff.1 member⟩
  simp only [discover, Traced.value_bind, empty]

/-- What a tree without a script is to a scan: a table for each directory in a directory of the root
that has a data file below it. -/
theorem lists_directories (proper : t.Proper) (plain : ¬∃ script, IsScript t root script) :
    SourceMap.Lists (discover t root).value (fun source path => path = root.child (.ofString source))
      (IsDirectoryTable t NamedAsSchema root) := by
  rw [value_discover_of_no_script plain]
  have found := get?_ofDirectories proper root
  have made {s : Source} (member : s ∈ (ofDirectories t root).value.values) :
      s.tables.isEmpty = false ∧ s = sourceIn t s.name (root.child (.ofString s.name)) := by
    obtain ⟨⟨name, _⟩, entry, rfl⟩ := List.mem_map.1 member
    obtain ⟨rfl, here, made⟩ := (found _ _).1 (NameMap.get?_eq_some_iff.2 entry)
    exact ((sourceIn?_eq_some_iff proper here).1 made).2.2
  refine ⟨fun e entry => ?_, fun s member => (made member).1, fun s member => ?_,
    fun source table tb => ?_⟩
  · exact ((found _ _).1 (NameMap.get?_eq_some_iff.2 entry)).1
  · rw [(made member).2]
    simp only [(sourceIn_holds proper _ _).1]
  · have inside := (sourceIn_holds proper source (root.child (.ofString source))).2 table tb
    rw [SourceMap.table?, Option.bind_eq_some_iff]
    constructor
    · rintro ⟨s, known, listed⟩
      obtain ⟨rfl, outer, made⟩ := (found source s).1 known
      obtain ⟨-, visible, -, same⟩ := (sourceIn?_eq_some_iff proper outer).1 made
      rw [same, inside] at listed
      exact ⟨visible, outer, listed.1, listed.2⟩
    · rintro ⟨visible, outer, inner, counts⟩
      have listed := inside.2 ⟨inner, counts⟩
      have named := (sourceIn_holds proper source (root.child (.ofString source))).1.1
      refine ⟨_, (found source _).2 ⟨named, outer, ?_⟩, listed⟩
      refine (sourceIn?_eq_some_iff proper outer).2 ⟨by rw [named], visible, ?_, by rw [named]⟩
      exact NameMap.isEmpty_eq_false_iff.2 ⟨table, tb, listed⟩

section Order

/-- What counts as a table does where nothing has changed but the order of the entries. -/
theorem isTable_of_same (same : FileTree.SameBut (fun _ => False) t t') {directory : Path}
    {name : String} {tb : Table} (h : IsTable t Schema directory name tb) :
    IsTable t' Schema directory name tb where
  named := h.named
  data := by simpa only [same.sees_iff] using h.data
  schema := by simpa only [same.sees_iff] using h.schema
  fields := by
    have loaded (p : Path) : loadSchema t' p = loadSchema t p := by
      rw [loadSchema, loadSchema, same.readText fun _ _ => not_false]
    simpa only [loaded] using h.fields
  kind := h.kind

theorem isDirectoryTable_of_same (same : FileTree.SameBut (fun _ => False) t t')
    {source table : String} {tb : Table} (h : IsDirectoryTable t Schema root source table tb) :
    IsDirectoryTable t' Schema root source table tb :=
  ⟨h.visible, same.hasDirectory h.outer, same.hasDirectory h.inner, isTable_of_same same h.found⟩

end Order

/-- **Directory tables.** Where a scan comes to no script, it finds one table for each directory in a
directory of the root that has a data file below it, and nothing else: hidden sources do not count,
and of several files of a kind the least does. The order in which directories list their entries
makes no difference. -/
theorem directory_tables_exact (proper : t.Proper) (plain : ¬∃ script, IsScript t root script) :
    SourceMap.Lists (discover t root).value (fun source path => path = root.child (.ofString source))
      (IsDirectoryTable t NamedAsSchema root) ∧
    (∀ source table, (source, table) ∈ (discover t root).value.pairs ↔
      (Name.ofString source).isHidden = false ∧ t.HasDirectory root (.ofString source) ∧
      t.HasDirectory (root.child (.ofString source)) (.ofString table) ∧
      ∃ p, t.Sees ((root.child (.ofString source)).child (.ofString table)) p ∧
        p.hasExtension parquetExtension) ∧
    ∀ t' : FileTree, t'.work = t.work → t.root.Reordered t'.root →
      (discover t' root).value = (discover t root).value := by
  have lists := lists_directories proper plain
  refine ⟨lists, fun source table => ?_, fun t' work order => ?_⟩
  · rw [SourceMap.mem_pairs_iff, Option.isSome_iff_exists]
    simp only [lists.listed]
    constructor
    · rintro ⟨tb, visible, outer, inner, found⟩
      exact ⟨visible, outer, inner, (exists_isTable_iff proper inner.leads table).1 ⟨tb, found⟩⟩
    · rintro ⟨visible, outer, inner, held⟩
      obtain ⟨tb, found⟩ := (exists_isTable_iff proper inner.leads table).2 held
      exact ⟨tb, visible, outer, inner, found⟩
  · have same := FileTree.sameBut_of_reordered work order
    have plain' : ¬∃ script, IsScript t' root script := by
      simpa only [IsScript, same.reaches_iff] using plain
    refine (lists_directories (same.proper proper) plain').unique lists (fun source table tb => ?_) ?_
    · exact ⟨isDirectoryTable_of_same same.symm, isDirectoryTable_of_same same⟩
    · rintro source table tb _ _ - rfl rfl
      rfl

/-! ### A schema file whose name is no text -/

/-- A name that ends as those of schema files do and is no text. -/
def oddName : Name := ⟨255 :: Text.octets schemaSuffix⟩

/-- The directory of a table with such a file beside its data. -/
def oddTable : Files.Node :=
  .directory [(.ofString "orders.parquet", .file []), (oddName, .file [])]

/-- A tree of this one table. -/
def oddTree : FileTree where
  root := .directory [(.ofString "sales", .directory [(.ofString "orders", oddTable)])]
  work := []

/-- The path of the directory of the table. -/
def oddDirectory : Path := (here.child (.ofString "sales")).child (.ofString "orders")

theorem oddTree_proper : oddTree.Proper :=
  FileTree.proper_of_names (by decide)

theorem oddTree_leads : oddTree.node here = .ok oddTree.root ∧
    oddTree.node (here.child (.ofString "sales")) =
      .ok (.directory [(.ofString "orders", oddTable)]) ∧
    oddTree.node oddDirectory = .ok oddTable := by
  have rooted : oddTree.node here = .ok oddTree.root := FileTree.node_dot rfl
  have sales : oddTree.root.descend [.ofString "sales"] =
      some (.directory [(.ofString "orders", oddTable)]) := by simp [oddTree, Files.Node.named?]
  have orders : oddTree.root.descend [.ofString "sales", .ofString "orders"] = some oddTable := by
    simp [oddTree, Files.Node.named?]
  exact ⟨rooted, FileTree.node_below oddTree_proper rooted sales (by simp) (by decide),
    FileTree.node_below oddTree_proper rooted orders (by simp [oddTable]) (by decide)⟩

theorem oddTable_ways :
    oddTable.waysTo Files.Node.isFile = [[.ofString "orders.parquet"], [oddName]] := by
  have order : [Name.ofString "orders.parquet", oddName].Pairwise Name.Before := by decide
  simp [oddTable, Files.waysToFiles_directory, Files.waysToFiles_file, Files.waysThrough,
    Files.Node.isDirectory, Files.inOrder_of_sorted, order, -List.pairwise_cons]

/-- A walk through the directory of orders sees its two files. -/
theorem sees_oddDirectory_iff {p : Path} : oddTree.Sees oddDirectory p ↔
    p = oddDirectory.child (.ofString "orders.parquet") ∨ p = oddDirectory.child oddName := by
  have leads : oddTree.isDirectory oddDirectory := by
    rw [FileTree.isDirectory, oddTree_leads.2.2]
    rfl
  have below : FileTree.filesBelow oddDirectory oddTable =
      [oddDirectory.child (.ofString "orders.parquet"), oddDirectory.child oddName] := by
    rw [FileTree.filesBelow, oddTable_ways]
    decide
  have found : p ∈ (oddTree.findFiles oddDirectory fun _ => true).value ↔ _ ∧ true :=
    FileTree.mem_findFiles_iff _ leads
  rw [FileTree.findFiles_directory oddTree_leads.2.2] at found
  change p ∈ (FileTree.filesBelow oddDirectory oddTable).filter _ ↔ _ at found
  rw [below] at found
  simpa using found.symm

/-- There is no script in the tree. -/
theorem oddTree_plain : ¬∃ script, IsScript oddTree here script := by
  have ways : oddTree.root.waysTo Files.Node.isFile = [
      [.ofString "sales", .ofString "orders", .ofString "orders.parquet"],
      [.ofString "sales", .ofString "orders", oddName]] := by
    have visible : (Name.ofString "sales").isHidden = false ∧
      (Name.ofString "orders").isHidden = false := by decide
    simp [oddTree, Files.waysToFiles_directory, oddTable_ways, Files.waysThrough, visible,
      Files.inOrder_of_sorted, List.pairwise_singleton, -List.pairwise_cons]
  have empty : (oddTree.findFiles here fun p => p.hasExtension sqlExtension).value = [] := by
    rw [FileTree.findFiles_directory oddTree_leads.1, FileTree.filesBelow]
    change (((oddTree.root.waysTo _).filter _).map _).filter _ = _
    rw [ways]
    decide
  rintro ⟨script, scripted⟩
  have member := mem_scripts_iff.2 scripted
  rw [empty] at member
  cases member

/-- A scan takes the table without the odd file. -/
theorem oddTree_table : IsDirectoryTable oddTree NamedAsSchema here "sales" "orders"
    ⟨"orders", oddDirectory.child (.ofString "orders.parquet"), none, [], .parquet⟩ := by
  obtain ⟨rooted, sales, orders⟩ := oddTree_leads
  have parquet : (oddDirectory.child (.ofString "orders.parquet")).hasExtension parquetExtension ∧
      ¬(oddDirectory.child oddName).hasExtension parquetExtension := by decide
  have bare : ¬isSchemaPath (oddDirectory.child (.ofString "orders.parquet")) ∧
      ¬isSchemaPath (oddDirectory.child oddName) := by decide +kernel
  refine ⟨by decide, ⟨⟨_, _, rooted, rfl⟩, ?_⟩, ⟨⟨_, _, sales, rfl⟩, ?_⟩,
    rfl, ⟨⟨sees_oddDirectory_iff.2 (.inl rfl), parquet.1⟩, ?_⟩, ?_, rfl, rfl⟩
  · rw [FileTree.isDirectory, sales]
  · rw [FileTree.isDirectory, ← oddDirectory, orders]
    rfl
  · rintro q ⟨seen, wanted⟩ other
    rcases sees_oddDirectory_iff.1 seen with rfl | rfl
    · exact absurd rfl other
    · exact absurd wanted parquet.2
  · intro q seen
    rw [← isSchemaPath_iff]
    rcases sees_oddDirectory_iff.1 seen with rfl | rfl
    · exact bare.1
    · exact bare.2

/-- The table is what the tree holds. -/
theorem oddTree_orders :
    oddTree.Proper ∧ (¬∃ script, IsScript oddTree here script) ∧
    (discover oddTree here).value.table? "sales" "orders" =
      some ⟨"orders", oddDirectory.child (.ofString "orders.parquet"), none, [], .parquet⟩ :=
  ⟨oddTree_proper, oddTree_plain,
    ((directory_tables_exact oddTree_proper oddTree_plain).1.listed _ _ _).2 oddTree_table⟩

/-- A path whose file name ends as those of schema files do, be it a text or not. -/
def EndsAsSchema (p : Path) : Prop :=
  ∃ front : List UInt8, p.fileName? = some ⟨front ++ Text.octets schemaSuffix⟩

/-- A schema file whose name is no text does not count, so to call every file one whose name ends
that way would not describe what a scan finds. -/
theorem ending_is_not_enough :
    oddTree.Proper ∧ (¬∃ script, IsScript oddTree here script) ∧
    ¬SourceMap.Lists (discover oddTree here).value
      (fun source path => path = here.child (.ofString source))
      (IsDirectoryTable oddTree EndsAsSchema here) := by
  refine ⟨oddTree_proper, oddTree_plain, fun lists => ?_⟩
  have listed := (lists_directories oddTree_proper oddTree_plain).listed
  have found := ((lists.listed _ _ _).1 ((listed _ _ _).2 oddTree_table)).found
  refine found.schema (oddDirectory.child oddName) (sees_oddDirectory_iff.2 (.inr rfl)) ?_
  exact ⟨[255], Path.fileName?_child oddDirectory (by decide) (by decide)⟩

end DataShelf.Catalog.Scan
