import DataShelf.Proofs.DeclaredTables
import DataShelf.Proofs.DirectoryTables

/-!
# Rendered projects

A rendered project has a directory for each source and in it one for each table, which holds the
data file of the table, maybe its schema file, and nothing else (`HoldsSources`). What a scan makes
of such a directory is the table that a manifest declares by name (`HoldsTable.isTable`). So both
ways of discovery find the same sources (`strategies_agree`), as long as a file can be followed to
where its directory can. Deep down there are files that cannot, and only a scan takes them
(`strategies_differ_far_down`).
-/

namespace DataShelf.Catalog
set_option autoImplicit false

open Files (Name Node Path FileTree IsPart)
open Manifest (declaredTable dataPath schemaPath)

/-! ### What a rendered project holds -/

/-- The name of the data file of a table. -/
def dataName (table : String) : Name := .ofString (table ++ "." ++ parquetExtension)

/-- The name of the schema file of a table. -/
def schemaName (table : String) : Name := .ofString (table ++ schemaSuffix)

/-- The name of the manifest of a project. -/
def manifestName : Name := .ofString Manifest.fileName

/-- The directory of a table: its data file, maybe its schema file, and nothing else. -/
structure HoldsTable (table : String) (node : Node) : Prop where
  data : ∃ contents, node.descend [dataName table] = some (.file contents)
  files : ∀ n next, node.descend [n] = some next →
    (n = dataName table ∨ n = schemaName table) ∧ ∃ contents, next = .file contents

/-- The directory of a source: directories of tables, at least one, and nothing else. -/
structure HoldsTables (node : Node) : Prop where
  filled : ∃ n next, node.descend [n] = some next
  tables : ∀ n next, node.descend [n] = some next →
    ∃ table, n = .ofString table ∧ HoldsTable table next

/-- The directory of a project: besides the manifest, directories of sources that are not hidden,
and nothing else. -/
structure HoldsSources (node : Node) : Prop where
  directory : ∃ entries, node = .directory entries
  sources : ∀ n next, node.descend [n] = some next → n = manifestName ∨
    ∃ source, n = .ofString source ∧ n.isHidden = false ∧ HoldsTables next

/-- Files below a path can be followed to where their directories can. -/
def Followable (root : Path) (node : Node) : Prop :=
  ∀ way contents, node.descend way = some (.file contents) →
    FileTree.fits root way.dropLast → FileTree.fits root way

variable {t : FileTree} {root directory : Path} {project node : Node} {n : Name}
  {source table : String}

/-- A name leads from a directory only. -/
theorem exists_entries_of_descend {next : Node} (down : node.descend [n] = some next) :
    ∃ entries, node = .directory entries := by
  obtain ⟨entries, below, rfl, -, -⟩ := Node.descend_cons_eq_some down
  exact ⟨entries, rfl⟩

theorem HoldsTable.exists_entries (holds : HoldsTable table node) :
    ∃ entries, node = .directory entries := by
  obtain ⟨contents, down⟩ := holds.data
  exact exists_entries_of_descend down

theorem HoldsTables.exists_entries (holds : HoldsTables node) :
    ∃ entries, node = .directory entries := by
  obtain ⟨n, next, down⟩ := holds.filled
  exact exists_entries_of_descend down

/-! ### Names of files -/

theorem schemaName_spelled (table : String) :
    schemaName table = .ofString ((table ++ ".schema") ++ "." ++ "json") := by
  have ending : schemaSuffix = ".schema" ++ "." ++ "json" := by decide
  rw [schemaName, ending]
  simp only [String.append_assoc]

theorem manifestName_spelled : manifestName = .ofString ("manifest" ++ "." ++ "json") := by
  decide

/-- The names of the files of a table are real ones, also if that of the table is not. -/
theorem dataName_counts (table : String) :
    (dataName table).isIdle = false ∧ dataName table ≠ Name.dotDot :=
  Name.dotted_counts (by decide) (by decide)

theorem schemaName_counts (table : String) :
    (schemaName table).isIdle = false ∧ schemaName table ≠ Name.dotDot := by
  rw [schemaName_spelled]
  exact Name.dotted_counts (by decide) (by decide)

theorem octets_ne_nil {s : String} (proper : (Name.ofString s).Proper) : Text.octets s ≠ [] :=
  fun empty => proper.ne_empty (congrArg Name.mk empty)

/-- The name of a data file has that extension and no other. -/
theorem dataName_hasExtension_iff (named : Text.octets table ≠ []) {extension : String} :
    (directory.child (dataName table)).hasExtension extension ↔
      (Text.octets parquetExtension).map Name.lowerOctet =
        (Text.octets extension).map Name.lowerOctet :=
  Path.hasExtension_child_iff named (by decide) (by decide)

/-- The name of a schema file has the extension of JSON and no other. -/
theorem schemaName_hasExtension_iff {extension : String} :
    (directory.child (schemaName table)).hasExtension extension ↔
      (Text.octets "json").map Name.lowerOctet = (Text.octets extension).map Name.lowerOctet := by
  have named : Text.octets (table ++ ".schema") ≠ [] := by
    rw [Text.octets_append]
    exact List.append_ne_nil_of_right_ne_nil _ (by decide)
  rw [schemaName_spelled]
  exact Path.hasExtension_child_iff named (by decide) (by decide)

/-- The name of the manifest has the extension of JSON and no other. -/
theorem manifestName_hasExtension_iff {extension : String} :
    (directory.child manifestName).hasExtension extension ↔
      (Text.octets "json").map Name.lowerOctet = (Text.octets extension).map Name.lowerOctet := by
  rw [manifestName_spelled]
  exact Path.hasExtension_child_iff (by decide) (by decide) (by decide)

/-- A data file is not named as schema files are. -/
theorem dataName_not_schema : ¬Scan.NamedAsSchema (directory.child (dataName table)) := by
  rintro ⟨front, same⟩
  obtain ⟨real, up⟩ := dataName_counts table
  rw [Path.fileName?_child directory real up] at same
  have spelled : table ++ "." ++ parquetExtension = front ++ schemaSuffix :=
    Name.ofString_injective (Option.some.inj same)
  have last := congrArg (fun s : String => s.toList.getLast?) spelled
  simp [parquetExtension, schemaSuffix] at last

theorem schemaName_schema : Scan.NamedAsSchema (directory.child (schemaName table)) := by
  obtain ⟨real, up⟩ := schemaName_counts table
  exact ⟨table, Path.fileName?_child directory real up⟩

section Paths

variable (names : ∀ n ∈ [Name.ofString source, .ofString table], n.Proper)

include names

/-- Names that a directory can hold are parts of a path. -/
theorem isPart_of_names : IsPart source ∧ IsPart table :=
  ⟨Files.isPart_of_proper (names _ (by simp)), Files.isPart_of_proper (names _ (by simp))⟩

theorem dataPath_of_names : dataPath root source table =
    [Name.ofString source, .ofString table, dataName table].foldl Path.child root := by
  obtain ⟨outer, inner⟩ := isPart_of_names names
  exact Manifest.dataPath_of_parts outer inner root

theorem schemaPath_of_names : schemaPath root source table =
    [Name.ofString source, .ofString table, schemaName table].foldl Path.child root := by
  obtain ⟨outer, inner⟩ := isPart_of_names names
  exact Manifest.schemaPath_of_parts outer inner root

end Paths

/-! ### Directories of tables -/

namespace HoldsTable

variable (holds : HoldsTable table node) (found : t.node directory = .ok node)

include holds found

/-- A walk from the directory of a table sees its data file, and its schema file if there is one. -/
theorem sees_iff {q : Path} :
    t.Sees directory q ↔ q = directory.child (dataName table) ∨
      (node.descend [schemaName table]).isSome ∧ q = directory.child (schemaName table) := by
  obtain ⟨entries, rfl⟩ := holds.exists_entries
  have sees {n : Name} {next : Node} (down : (Node.directory entries).descend [n] = some next) :
      t.Sees directory (directory.child n) := by
    obtain ⟨-, contents, rfl⟩ := holds.files n next down
    have shown : (Node.directory entries).Shows [n] :=
      Node.shows_directory_iff.2 ⟨n, [], _, rfl, down, rfl, .file contents⟩
    exact ⟨_, [n], found, shown, FileTree.fits_nil found, rfl⟩
  constructor
  · rintro ⟨node', way, found', shown, -, rfl⟩
    obtain rfl : .directory entries = node' := Except.ok.inj (found.symm.trans found')
    obtain ⟨n, rest, next, rfl, down, -, onwards⟩ := Node.shows_directory_iff.1 shown
    obtain ⟨kind, contents, rfl⟩ := holds.files n next down
    obtain rfl := Node.shows_file_iff.1 onwards
    rcases kind with rfl | rfl
    · exact .inl rfl
    · exact .inr ⟨by rw [down]; rfl, rfl⟩
  · rintro (rfl | ⟨present, rfl⟩)
    · obtain ⟨contents, down⟩ := holds.data
      exact sees down
    · obtain ⟨next, down⟩ := Option.isSome_iff_exists.1 present
      exact sees down

/-- The data file is the one that a scan takes. -/
theorem least_data (named : Text.octets table ≠ []) :
    Path.Least (fun p => t.Sees directory p ∧ p.hasExtension parquetExtension)
      (directory.child (dataName table)) := by
  refine ⟨⟨(holds.sees_iff found).2 (.inl rfl), (dataName_hasExtension_iff named).2 rfl⟩, ?_⟩
  rintro q ⟨seen, wanted⟩ other
  rcases (holds.sees_iff found).1 seen with rfl | ⟨-, rfl⟩
  · exact absurd rfl other
  · exact absurd (schemaName_hasExtension_iff.1 wanted) (by decide)

/-- The schema file, if there is one, is the one that a scan takes. -/
theorem least_schema (present : (node.descend [schemaName table]).isSome) :
    Path.Least (fun p => t.Sees directory p ∧ Scan.NamedAsSchema p)
      (directory.child (schemaName table)) := by
  refine ⟨⟨(holds.sees_iff found).2 (.inr ⟨present, rfl⟩), schemaName_schema⟩, ?_⟩
  rintro q ⟨seen, wanted⟩ other
  rcases (holds.sees_iff found).1 seen with rfl | ⟨-, rfl⟩
  · exact absurd wanted dataName_not_schema
  · exact absurd rfl other

variable (proper : t.Proper)
  (short : ∀ n contents, node.descend [n] = some (.file contents) → FileTree.fits directory [n])

include proper short

/-- What is there by name is what the directory holds. -/
theorem isFile_iff (real : n.isIdle = false) (up : n ≠ Name.dotDot) :
    t.isFile (directory.child n) ↔ (node.descend [n]).isSome := by
  constructor
  · intro there
    obtain ⟨entries, rfl⟩ := holds.exists_entries
    obtain ⟨contents, leads⟩ := FileTree.isFile_iff.1 there
    obtain ⟨next, named⟩ := FileTree.exists_named?_of_node_child found real up leads
    simp [named]
  · intro present
    obtain ⟨next, down⟩ := Option.isSome_iff_exists.1 present
    obtain ⟨-, contents, rfl⟩ := holds.files n next down
    have leads : t.node (directory.child n) = .ok (.file contents) := by
      show t.node ([n].foldl Path.child directory) = _
      exact FileTree.node_of_fits proper found down (by simp) (short n contents down)
    rw [FileTree.isFile, leads]

/-- What a scan makes of the directory of a table is the table that is declared there. -/
theorem isTable (named : Text.octets table ≠ [])
    (data : dataPath root source table = directory.child (dataName table))
    (schema : schemaPath root source table = directory.child (schemaName table)) :
    t.isFile (dataPath root source table) ∧
      Scan.IsTable t Scan.NamedAsSchema directory table (declaredTable t root source table) := by
  have described : t.isFile (directory.child (schemaName table)) ↔
      (node.descend [schemaName table]).isSome := by
    obtain ⟨real, up⟩ := schemaName_counts table
    exact holds.isFile_iff found proper short real up
  have least := holds.least_data found named
  unfold declaredTable
  rw [data, schema]
  constructor
  · obtain ⟨real, up⟩ := dataName_counts table
    apply (holds.isFile_iff found proper short real up).2
    obtain ⟨contents, down⟩ := holds.data
    rw [down]
    rfl
  · split
    · next filed =>
      have later := holds.least_schema found (described.1 filed)
      exact ⟨rfl, least, later, rfl, rfl⟩
    · next bare =>
      refine ⟨rfl, least, ?_, rfl, rfl⟩
      intro q seen wanted
      rcases (holds.sees_iff found).1 seen with rfl | ⟨present, -⟩
      · exact dataName_not_schema wanted
      · exact bare (described.2 present)

end HoldsTable

/-! ### Both ways of discovery -/

namespace HoldsSources

variable (proper : t.Proper) (leads : t.node root = .ok project) (holds : HoldsSources project)
  (manifest : t.isFile (root.joinText Manifest.fileName))

include proper leads manifest

/-- The manifest is no directory. -/
theorem manifest_not_directory {entries : List (Name × Node)} :
    project.descend [manifestName] ≠ some (.directory entries) := by
  intro down
  have path : root.joinText Manifest.fileName = root.child manifestName :=
    Path.joinText_of_part (by decide) root
  rw [path] at manifest
  have other : t.node (root.child manifestName) = .ok (.directory entries) := by
    show t.node ([manifestName].foldl Path.child root) = _
    exact FileTree.node_of_fits proper leads down (by simp) (FileTree.fits_of_isFile manifest)
  rw [FileTree.isFile, other] at manifest
  cases manifest

include holds

/-- What stands at the name of a source is its directory. -/
theorem source_of_directory {entries : List (Name × Node)}
    (down : project.descend [n] = some (.directory entries)) :
    n.isHidden = false ∧ HoldsTables (.directory entries) := by
  rcases holds.sources n _ down with rfl | ⟨source, -, visible, tables⟩
  · exact absurd down (manifest_not_directory proper leads manifest)
  · exact ⟨visible, tables⟩

/-- What stands at two names is the directory of a table, in that of its source. -/
theorem table_of_descend (down : project.descend [.ofString source, .ofString table] = some node) :
    ∃ outer, project.descend [.ofString source] = some outer ∧
      outer.descend [.ofString table] = some node ∧
      (Name.ofString source).isHidden = false ∧ HoldsTables outer ∧ HoldsTable table node := by
  obtain ⟨entries, outer, rfl, named, rest⟩ := Node.descend_cons_eq_some down
  obtain ⟨inside, next, rfl, named', -⟩ := Node.descend_cons_eq_some rest
  have first : (Node.directory entries).descend [.ofString source] = some (.directory inside) := by
    simp [named]
  obtain ⟨visible, tables⟩ := holds.source_of_directory proper leads manifest first
  obtain ⟨table', same, inner⟩ := tables.tables _ _ rest
  obtain rfl := Name.ofString_injective same
  exact ⟨_, first, rest, visible, tables, inner⟩

/-- A scan finds the directory of a table if its path is short enough. -/
theorem directories_of_fits
    (down : project.descend [.ofString source, .ofString table] = some node)
    (opened : FileTree.fits root [.ofString source, .ofString table]) :
    t.HasDirectory root (.ofString source) ∧
      t.HasDirectory (root.child (.ofString source)) (.ofString table) ∧
      t.node ((root.child (.ofString source)).child (.ofString table)) = .ok node := by
  obtain ⟨outer, first, second, -, tables, files⟩ :=
    holds.table_of_descend proper leads manifest down
  obtain ⟨inside, rfl⟩ := tables.exists_entries
  obtain ⟨below, rfl⟩ := files.exists_entries
  obtain ⟨entries, rfl⟩ := holds.directory
  have above : FileTree.fits root [.ofString source] := FileTree.fits_of_concat opened
  have leadsOuter : t.node (root.child (.ofString source)) = .ok (.directory inside) := by
    show t.node ([Name.ofString source].foldl Path.child root) = _
    exact FileTree.node_of_fits proper leads first (by simp) above
  have leadsInner : t.node ((root.child (.ofString source)).child (.ofString table)) =
      .ok (.directory below) := by
    show t.node ([Name.ofString source, .ofString table].foldl Path.child root) = _
    exact FileTree.node_of_fits proper leads down (by simp) opened
  refine ⟨⟨⟨entries, _, leads, by simpa using first⟩, ?_⟩,
    ⟨⟨inside, _, leadsOuter, by simpa using second⟩, ?_⟩, leadsInner⟩
  · rw [FileTree.isDirectory, leadsOuter]
  · rw [FileTree.isDirectory, leadsInner]

/-- A scan of a rendered project comes to no script. -/
theorem no_script : ¬∃ script, Scan.IsScript t root script := by
  rintro ⟨script, reached, scripted⟩
  obtain ⟨entries, rfl⟩ := holds.directory
  have directory : t.isDirectory root := by
    rw [FileTree.isDirectory, leads]
  obtain ⟨node, way, found, shown, -, rfl⟩ := (FileTree.reaches_iff_sees directory).1 reached
  obtain rfl : .directory entries = node := Except.ok.inj (leads.symm.trans found)
  obtain ⟨n, way, next, rfl, down, -, shown⟩ := Node.shows_directory_iff.1 shown
  rcases holds.sources n next down with rfl | ⟨source, rfl, -, tables⟩
  · cases next with
    | file contents =>
      obtain rfl := Node.shows_file_iff.1 shown
      exact absurd (manifestName_hasExtension_iff.1 scripted) (by decide)
    | directory entries => exact manifest_not_directory proper leads manifest down
    | link target => cases shown
  · obtain ⟨inside, rfl⟩ := tables.exists_entries
    obtain ⟨n, way, next, rfl, down', -, shown⟩ := Node.shows_directory_iff.1 shown
    obtain ⟨table, rfl, files⟩ := tables.tables n next down'
    obtain ⟨below, rfl⟩ := files.exists_entries
    obtain ⟨n, way, next, rfl, down'', -, shown⟩ := Node.shows_directory_iff.1 shown
    obtain ⟨kind, contents, rfl⟩ := files.files n next down''
    obtain rfl := Node.shows_file_iff.1 shown
    have named : Text.octets table ≠ [] := by
      have whole : (Node.directory entries).descend [.ofString source, .ofString table] =
          some (.directory below) := by
        rw [← List.singleton_append, Node.descend_append, down, Option.bind_some, down']
      exact octets_ne_nil (proper.names_below leads whole _ (by simp))
    rcases kind with rfl | rfl
    · exact absurd ((dataName_hasExtension_iff named).1 scripted) (by decide)
    · exact absurd (schemaName_hasExtension_iff.1 scripted) (by decide)

variable (followable : Followable root project)

include followable

/-- In the directory of a table the declared table is there, and a scan finds it. -/
theorem found_of_descend
    (down : project.descend [.ofString source, .ofString table] = some node)
    (found : t.node ((root.child (.ofString source)).child (.ofString table)) = .ok node) :
    t.isFile (dataPath root source table) ∧
      Scan.IsTable t Scan.NamedAsSchema ((root.child (.ofString source)).child (.ofString table))
        table (declaredTable t root source table) := by
  have names := proper.names_below leads down
  obtain ⟨-, -, -, -, -, files⟩ := holds.table_of_descend proper leads manifest down
  have opened : FileTree.fits root [.ofString source, .ofString table] :=
    FileTree.fits_of_node found
  have short (n : Name) (contents : List UInt8) (here : node.descend [n] = some (.file contents)) :
      FileTree.fits ((root.child (.ofString source)).child (.ofString table)) [n] := by
    have whole : project.descend ([.ofString source, .ofString table] ++ [n]) =
        some (.file contents) := by
      rw [Node.descend_append, down, Option.bind_some, here]
    have followed := followable _ contents whole (by rwa [List.dropLast_concat])
    exact followed
  exact files.isTable found proper short (octets_ne_nil (names _ (by simp)))
    (dataPath_of_names names) (schemaPath_of_names names)

/-- What is declared and there is what a scan finds. -/
theorem declared_iff_found {tb : Table} :
    ((project.descend [.ofString source, .ofString table]).isSome ∧
      t.isFile (dataPath root source table) ∧ tb = declaredTable t root source table) ↔
      Scan.IsDirectoryTable t Scan.NamedAsSchema root source table tb := by
  constructor
  · rintro ⟨present, there, rfl⟩
    obtain ⟨node, down⟩ := Option.isSome_iff_exists.1 present
    obtain ⟨-, -, -, visible, -, -⟩ := holds.table_of_descend proper leads manifest down
    have names := proper.names_below leads down
    -- The path of the data file can be followed, so that of its directory can be too.
    have fits : FileTree.fits root [.ofString source, .ofString table, dataName table] := by
      rw [dataPath_of_names names] at there
      exact FileTree.fits_of_isFile there
    have opened : FileTree.fits root [.ofString source, .ofString table] :=
      FileTree.fits_of_concat fits
    obtain ⟨outer, inner, found⟩ := holds.directories_of_fits proper leads manifest down opened
    exact ⟨visible, outer, inner,
      (holds.found_of_descend proper leads manifest followable down found).2⟩
  · rintro ⟨visible, outer, inner, found⟩
    obtain ⟨entries, next, leads', named⟩ := outer.entry
    obtain ⟨inside, node, leadsOuter, named'⟩ := inner.entry
    obtain rfl : project = .directory entries := Except.ok.inj (leads.symm.trans leads')
    have first : (Node.directory entries).descend [.ofString source] = some next := by
      simpa using named
    rcases holds.sources _ next first with same | ⟨source', -, -, tables⟩
    · -- The manifest is a file, so it is no source.
      have path : root.joinText Manifest.fileName = root.child (.ofString source) := by
        rw [same]
        exact Path.joinText_of_part (by decide) root
      rw [path, FileTree.isFile, leadsOuter] at manifest
      cases manifest
    obtain ⟨inside', rfl⟩ := tables.exists_entries
    have reached : t.node (root.child (.ofString source)) = .ok (.directory inside') := by
      show t.node ([Name.ofString source].foldl Path.child root) = _
      exact FileTree.node_of_fits proper leads first (by simp) (FileTree.fits_of_node leadsOuter)
    obtain rfl : inside = inside' := by simpa [leadsOuter] using reached
    have down : (Node.directory entries).descend [.ofString source, .ofString table] =
        some node := by
      simp [named, named']
    have opened : FileTree.fits root [.ofString source, .ofString table] :=
      FileTree.fits_of_isDirectory inner.leads
    obtain ⟨-, -, leadsInner⟩ := holds.directories_of_fits proper leads manifest down opened
    obtain ⟨there, declared⟩ :=
      holds.found_of_descend proper leads manifest followable down leadsInner
    refine ⟨by rw [down]; rfl, there, ?_⟩
    rw [← Scan.value_table?_eq_some_iff proper inner.leads] at found declared
    exact Option.some.inj (found.symm.trans declared)

end HoldsSources

/-- **Agreement of strategies.** In a rendered project whose manifest declares the tables that it
holds, the manifest and a scan lead to the same sources, as long as files can be followed to where
their directories can. -/
theorem strategies_agree {j : Json} (proper : t.Proper) (leads : t.node root = .ok project)
    (holds : HoldsSources project) (followable : Followable root project)
    (read : Manifest.read t (root.joinText Manifest.fileName) = .ok j) (shaped : Manifest.Shaped j)
    (declares : ∀ source table, Manifest.Declares j source table ↔
      (project.descend [.ofString source, .ofString table]).isSome) :
    (Manifest.discover t root).value = some (Scan.discover t root).value := by
  have manifest := Manifest.isFile_of_read read
  obtain ⟨m, found, listed⟩ := Manifest.lists_discover read shaped
  have scanned := Scan.lists_directories proper (holds.no_script proper leads manifest)
  rw [found]
  apply congrArg some
  apply listed.unique scanned
  · intro source table tb
    rw [declares]
    exact holds.declared_iff_found proper leads manifest followable
  · rintro source table tb p q ⟨declared, -⟩ rfl rfl
    obtain ⟨node, down⟩ := Option.isSome_iff_exists.1 ((declares source table).1 declared)
    have name : (Name.ofString source).Proper := proper.names_below leads down _ (by simp)
    exact Path.joinText_of_part (Files.isPart_of_proper name) root

/-- Where the directory of a table can be followed and its data file cannot, only a scan takes the
table. -/
theorem strategies_differ {j : Json} (proper : t.Proper) (leads : t.node root = .ok project)
    (holds : HoldsSources project)
    (read : Manifest.read t (root.joinText Manifest.fileName) = .ok j) (shaped : Manifest.Shaped j)
    (down : project.descend [.ofString source, .ofString table] = some node)
    (opened : FileTree.fits root [.ofString source, .ofString table])
    (closed : ¬FileTree.fits root [.ofString source, .ofString table, dataName table]) :
    (Manifest.discover t root).value ≠ some (Scan.discover t root).value := by
  have manifest := Manifest.isFile_of_read read
  have names := proper.names_below leads down
  obtain ⟨m, found, listed⟩ := Manifest.lists_discover read shaped
  have scanned := Scan.lists_directories proper (holds.no_script proper leads manifest)
  rw [found]
  intro same
  obtain rfl : m = (Scan.discover t root).value := Option.some.inj same
  -- The scan takes the table, so the manifest would lead to its data file.
  obtain ⟨outer, inner, reached⟩ := holds.directories_of_fits proper leads manifest down opened
  obtain ⟨-, -, -, visible, -, files⟩ := holds.table_of_descend proper leads manifest down
  have data := (files.least_data reached (octets_ne_nil (names _ (by simp)))).1
  obtain ⟨tb, taken⟩ := (Scan.exists_isTable_iff proper inner.leads table).2 ⟨_, data⟩
  have both := (scanned.listed source table tb).2 ⟨visible, outer, inner, taken⟩
  obtain ⟨-, there, -⟩ := (listed.listed source table tb).1 both
  rw [dataPath_of_names names] at there
  exact closed (FileTree.fits_of_isFile there)

/-! ### A project near and far -/

section Orders

open Manifest (ordersTree ordersManifest treeOf)

/-- The directory of the project of orders. -/
def ordersProject : Node := ordersTree.root

/-- The project of orders holds sources. -/
theorem ordersProject_holds : HoldsSources ordersProject := by
  have data : Name.ofString "orders.parquet" = dataName "orders" := by decide
  have schema : Name.ofString "orders.schema.json" = schemaName "orders" := by decide
  refine ⟨⟨_, rfl⟩, ?_⟩
  intro n next down
  rcases Node.descend_directory_cases down with ⟨rfl, -⟩ | down
  · exact .inl rfl
  rcases Node.descend_directory_cases down with ⟨rfl, here⟩ | down
  · obtain rfl := Option.some.inj ((Node.descend_nil _).symm.trans here)
    refine .inr ⟨"sales", rfl, by decide, ⟨.ofString "orders", ?_⟩, ?_⟩
    · simp [Node.named?]
    intro n next down
    rcases Node.descend_directory_cases down with ⟨rfl, here⟩ | down
    · obtain rfl := Option.some.inj ((Node.descend_nil _).symm.trans here)
      refine ⟨"orders", rfl, ⟨[], by simp [Node.named?, data]⟩, ?_⟩
      intro n next down
      rcases Node.descend_directory_cases down with ⟨rfl, here⟩ | down
      · exact ⟨.inl data, _, (Option.some.inj here).symm⟩
      rcases Node.descend_directory_cases down with ⟨rfl, here⟩ | down
      · exact ⟨.inr schema, _, (Option.some.inj here).symm⟩
      · simp [Node.named?] at down
    · simp [Node.named?] at down
  · simp [Node.named?] at down

theorem ordersProject_orders :
    ∃ node, ordersProject.descend [.ofString "sales", .ofString "orders"] = some node := by
  have other : Name.ofString "manifest.json" ≠ .ofString "sales" := by decide
  simp [ordersProject, ordersTree, treeOf, Node.named?, other]

/-- The table that the manifest declares is the one that the project holds. -/
theorem ordersProject_declares (source table : String) :
    Manifest.Declares ordersManifest source table ↔
      (ordersProject.descend [.ofString source, .ofString table]).isSome := by
  rw [Manifest.ordersManifest_declares]
  constructor
  · rintro ⟨rfl, rfl⟩
    exact Option.isSome_iff_exists.2 ordersProject_orders
  · intro present
    obtain ⟨node, down⟩ := Option.isSome_iff_exists.1 present
    rcases Node.descend_directory_cases down with ⟨-, below⟩ | down
    · cases Node.eq_nil_of_descend_file below
    rcases Node.descend_directory_cases down with ⟨outer, below⟩ | down
    · rcases Node.descend_directory_cases below with ⟨inner, -⟩ | below
      · exact ⟨Name.ofString_injective outer, Name.ofString_injective inner⟩
      · simp [Node.named?] at below
    · simp [Node.named?] at down

theorem ordersProject_manifest : ordersProject.descend [manifestName] =
    some (.file (Text.octets Manifest.ordersText)) :=
  Manifest.treeOf_manifest Manifest.ordersText

/-- The ways to the files of the project. -/
theorem ordersProject_files {way : List Name} {contents : List UInt8}
    (down : ordersProject.descend way = some (.file contents)) :
    way = [manifestName] ∨
      way = [.ofString "sales", .ofString "orders", .ofString "orders.parquet"] ∨
      way = [.ofString "sales", .ofString "orders", .ofString "orders.schema.json"] := by
  cases way with
  | nil => simp [ordersProject, ordersTree, treeOf] at down
  | cons n way =>
    rcases Node.descend_directory_cases down with ⟨rfl, file⟩ | down
    · rw [Node.eq_nil_of_descend_file file]
      exact .inl rfl
    rcases Node.descend_directory_cases down with ⟨rfl, inSource⟩ | down
    · cases way with
      | nil => simp at inSource
      | cons n way =>
        rcases Node.descend_directory_cases inSource with ⟨rfl, inTable⟩ | inSource
        · cases way with
          | nil => simp at inTable
          | cons n way =>
            rcases Node.descend_directory_cases inTable with ⟨rfl, file⟩ | inTable
            · rw [Node.eq_nil_of_descend_file file]
              exact .inr (.inl rfl)
            rcases Node.descend_directory_cases inTable with ⟨rfl, file⟩ | inTable
            · rw [Node.eq_nil_of_descend_file file]
              exact .inr (.inr rfl)
            · simp [Node.named?] at inTable
        · simp [Node.named?] at inSource
    · simp [Node.named?] at down

/-- From the working directory all files can be followed. -/
theorem ordersProject_followable : Followable here ordersProject := by
  intro way contents down _
  rcases ordersProject_files down with rfl | rfl | rfl <;> decide

/-- The project holds what its manifest declares. -/
theorem ordersProject_agrees :
    ordersTree.Proper ∧ ordersTree.node here = .ok ordersProject ∧ HoldsSources ordersProject ∧
    Followable here ordersProject ∧
    Manifest.read ordersTree (here.joinText Manifest.fileName) = .ok ordersManifest ∧
    Manifest.Shaped ordersManifest ∧
    (∀ source table, Manifest.Declares ordersManifest source table ↔
      (ordersProject.descend [.ofString source, .ofString table]).isSome) ∧
    (Manifest.discover ordersTree here).value = some (Scan.discover ordersTree here).value := by
  have leads : ordersTree.node here = .ok ordersProject := FileTree.node_dot rfl
  have read : Manifest.read ordersTree (here.joinText Manifest.fileName) = .ok ordersManifest :=
    Manifest.read_treeOf Manifest.read_ordersText
  refine ⟨Manifest.ordersTree_proper, leads, ordersProject_holds, ordersProject_followable, read,
    Manifest.ordersManifest_shaped, ordersProject_declares, ?_⟩
  exact strategies_agree Manifest.ordersTree_proper leads ordersProject_holds
    ordersProject_followable read Manifest.ordersManifest_shaped ordersProject_declares

/-- The manifest of the tree of orders is read from any path that leads to the project. -/
theorem ordersTree_read (leads : ordersTree.node root = .ok ordersProject)
    (short : FileTree.fits root [manifestName]) :
    Manifest.read ordersTree (root.joinText Manifest.fileName) = .ok ordersManifest := by
  have path : root.joinText Manifest.fileName = root.child manifestName :=
    Path.joinText_of_part (by decide) root
  rw [path]
  refine Manifest.read_of_node ?_ Manifest.read_ordersText
  show ordersTree.node ([manifestName].foldl Path.child root) = _
  exact FileTree.node_of_fits Manifest.ordersTree_proper leads ordersProject_manifest (by simp) short

theorem dots_leads {steps : Nat} (short : 2 * steps + 1 ≤ FileTree.longestPath) :
    ordersTree.node (dots steps) = .ok ordersProject :=
  node_dots rfl rfl short

/-- A project far down. -/
def farRoot : Path := dots 2037

theorem farRoot_leads : ordersTree.node farRoot = .ok ordersProject :=
  dots_leads (by decide)

/-- From there the data file cannot be followed, but its directory can, and the manifest. -/
theorem farRoot_fits : FileTree.fits farRoot [manifestName] ∧
    FileTree.fits farRoot [.ofString "sales", .ofString "orders"] ∧
    ¬FileTree.fits farRoot [.ofString "sales", .ofString "orders", dataName "orders"] := by
  rw [farRoot, fits_dots_iff (by decide), fits_dots_iff (by decide), fits_dots_iff (by decide)]
  decide

/-- From far down the manifest does not lead to the table that it declares. -/
theorem strategies_differ_far_down :
    ordersTree.Proper ∧ ordersTree.node farRoot = .ok ordersProject ∧ HoldsSources ordersProject ∧
    Manifest.read ordersTree (farRoot.joinText Manifest.fileName) = .ok ordersManifest ∧
    Manifest.Shaped ordersManifest ∧
    (∀ source table, Manifest.Declares ordersManifest source table ↔
      (ordersProject.descend [.ofString source, .ofString table]).isSome) ∧
    (Manifest.discover ordersTree farRoot).value ≠ some (Scan.discover ordersTree farRoot).value := by
  obtain ⟨short, opened, closed⟩ := farRoot_fits
  have read := ordersTree_read farRoot_leads short
  have differ := strategies_differ Manifest.ordersTree_proper farRoot_leads ordersProject_holds read
    Manifest.ordersManifest_shaped ordersProject_orders.choose_spec opened closed
  exact ⟨Manifest.ordersTree_proper, farRoot_leads, ordersProject_holds, read,
    Manifest.ordersManifest_shaped, ordersProject_declares, differ⟩

end Orders

end DataShelf.Catalog
