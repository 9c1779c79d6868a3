import DataShelf.Proofs.Fallback
import DataShelf.Proofs.PathsBelow

/-!
# Catalogs within their root

A walk only goes down, so what a scan finds lies within the root (`Scan.within_discover`). A manifest
is taken at its word: its names are joined to the root as they are. Names that climb lead out of the
root (`Manifest.within_dataPath_iff`), names that start over leave it at once
(`Manifest.dataPath_of_absolute`), and only names that are one component each lead where a data file is
looked for by its names (`Manifest.components_dataPath_eq_iff`). So a catalog from a manifest is
confined exactly if all of its names are components (`confined_iff`).
-/

namespace DataShelf.Catalog
set_option autoImplicit false

open Files (Name Path FileTree)
open Files.Path (IsComponent StaysBelow)

variable {t : FileTree} {root : Path} {c : Catalog}

/-! ### Where sources come from -/

/-- The sources of a catalog are those of a manifest or those of a scan, as its origin says. -/
theorem sources_of_build (built : (build t root).value = .ok c) :
    c.root = root ∧ t.isDirectory root ∧
    (c.origin = .manifest → (Manifest.discover t root).value = some c.sources) ∧
    (c.origin = .directoryScan → c.sources = (Scan.discover t root).value) := by
  unfold build at built
  split at built
  · next directory =>
    obtain rfl := Except.ok.inj built
    refine ⟨rfl, directory, ?_⟩
    simp only [discover, Traced.value_bind]
    split
    · next m given =>
      split
      · rw [value_scan]
        refine ⟨?_, fun _ => rfl⟩
        rintro ⟨⟩
      · refine ⟨fun _ => given, ?_⟩
        rintro ⟨⟩
    · rw [value_scan]
      refine ⟨?_, fun _ => rfl⟩
      rintro ⟨⟩
  · cases built

namespace Manifest

variable {source table file : String}

/-- What a manifest gives is made of declared names. -/
theorem exists_declared {m : SourceMap} (found : (discover t root).value = some m) :
    ∃ declared, m = (ofDeclared t root declared).value := by
  unfold discover at found
  dsimp only at found
  split at found
  · split at found
    · simp at found
    · rw [Traced.value_bind] at found
      split at found
      · next declared _ => exact ⟨declared, by simpa using found.symm⟩
      · simp at found
  · simp at found

/-! ### The paths of declared tables -/

/-- A file of a declared table lies below the root exactly if the names of the table stay below
where they are joined to. -/
theorem within_file_iff (filled : root.octets ≠ [])
    (outer : (Path.ofString source).isAbsolute = false)
    (inner : (Path.ofString table).isAbsolute = false)
    (relative : (Path.ofString file).isAbsolute = false)
    (level : Name.dotDot ∈ (Path.ofString file).segments →
      Name.dotDot ∈ (Path.ofString table).segments) :
    root.Within ((tableDirectory root source table).joinText file) ↔
      StaysBelow source ∧ StaysBelow table := by
  have above := Path.octets_joinText_ne_nil filled source
  have same : ((tableDirectory root source table).joinText file).components = root.components ++
      ((Path.ofString source).segments ++ (Path.ofString table).segments ++
        (Path.ofString file).segments).filterMap Path.componentOf? := by
    rw [tableDirectory, Path.components_joinText (Path.octets_joinText_ne_nil above table) relative,
      Path.components_joinText above inner, Path.components_joinText filled outer]
    simp
  rw [Path.within_iff_of_components same]
  simp only [List.mem_append, not_or]
  constructor
  · rintro ⟨⟨climbs, climbs'⟩, -⟩
    exact ⟨⟨outer, climbs⟩, inner, climbs'⟩
  · rintro ⟨source, table⟩
    exact ⟨⟨source.level, table.level⟩, mt level table.level⟩

/-- The data file of a declared table lies below the root exactly if its names stay below. -/
theorem within_dataPath_iff (filled : root.octets ≠ [])
    (outer : (Path.ofString source).isAbsolute = false)
    (inner : (Path.ofString table).isAbsolute = false) :
    root.Within (dataPath root source table) ↔ StaysBelow source ∧ StaysBelow table :=
  within_file_iff filled outer inner ((Path.isAbsolute_dotted (by decide) table).trans inner)
    (Path.dotDot_mem_of_dotted (by decide) (by decide) (by decide))

/-- The schema file of a declared table lies below the root exactly if its names stay below. -/
theorem within_schemaPath_iff (filled : root.octets ≠ [])
    (outer : (Path.ofString source).isAbsolute = false)
    (inner : (Path.ofString table).isAbsolute = false) :
    root.Within (schemaPath root source table) ↔ StaysBelow source ∧ StaysBelow table := by
  have name : table ++ schemaSuffix = table ++ "." ++ "schema" ++ "." ++ "json" := by
    simp only [String.append_assoc]
    rfl
  rw [schemaPath, name]
  refine within_file_iff filled outer inner ?_ fun climbs => ?_
  · rw [Path.isAbsolute_dotted (by decide), Path.isAbsolute_dotted (by decide), inner]
  · exact Path.dotDot_mem_of_dotted (by decide) (by decide) (by decide)
      (Path.dotDot_mem_of_dotted (by decide) (by decide) (by decide) climbs)

/-- A data file is where the names of its source and itself say exactly if both are components. -/
theorem components_dataPath_eq_iff (filled : root.octets ≠ []) :
    (dataPath root source table).components = root.components ++
        [.normal (.ofString source), .normal (.ofString table),
          .normal (.ofString (table ++ "." ++ parquetExtension))] ↔
      IsComponent source ∧ IsComponent table := by
  have above := Path.octets_joinText_ne_nil filled source
  have within := Path.octets_joinText_ne_nil above table
  constructor
  · intro same
    have named : (dataPath root source table).fileName? =
        some (.ofString (table ++ "." ++ parquetExtension)) := by
      rw [Path.fileName?, same]
      simp
    have part := Path.isPart_of_fileName? (by decide) (by decide) (by decide) named
    have file : IsComponent (table ++ "." ++ parquetExtension) :=
      Path.isComponent_dotted (by decide) (by decide) (by decide) part
    have before : (tableDirectory root source table).components =
        root.components ++ [.normal (.ofString source), .normal (.ofString table)] := by
      have joined := (Path.components_joinText_eq_iff within).2 file
      rw [dataPath, tableDirectory, joined] at same
      have whole := congrArg List.dropLast same
      rw [tableDirectory]
      simpa using whole
    -- The table may count for nothing, but then there is no room for it behind the source.
    rw [tableDirectory, Path.components_joinText above (Path.relative_of_part part),
      Path.segments_of_part part] at before
    cases counts : Path.componentOf? (.ofString table) with
    | none =>
      simp only [List.filterMap_cons, counts, List.filterMap_nil, List.append_nil] at before
      cases (Path.isComponent_of_components filled before).2
    | some component =>
      simp only [List.filterMap_cons, counts, List.filterMap_nil] at before
      have ends : (root.joinText source).components ++ [component] =
          (root.components ++ [.normal (.ofString source)]) ++ [.normal (.ofString table)] := by
        rw [before, List.append_assoc]
        rfl
      obtain ⟨outer, last⟩ := List.append_inj' ends rfl
      obtain rfl := List.singleton_inj.1 last
      exact ⟨(Path.components_joinText_eq_iff filled).1 outer, part, counts⟩
  · rintro ⟨outer, inner⟩
    have file : IsComponent (table ++ "." ++ parquetExtension) :=
      Path.isComponent_dotted (by decide) (by decide) (by decide) inner.part
    rw [dataPath, tableDirectory, (Path.components_joinText_eq_iff within).2 file,
      (Path.components_joinText_eq_iff above).2 inner,
      (Path.components_joinText_eq_iff filled).2 outer]
    simp

/-- Names that start over lead to the same file below any root. -/
theorem dataPath_of_absolute
    (absolute : (Path.ofString source).isAbsolute ∨ (Path.ofString table).isAbsolute)
    (root' : Path) : dataPath root' source table = dataPath root source table := by
  have directory : tableDirectory root' source table = tableDirectory root source table := by
    rw [tableDirectory, tableDirectory]
    rcases absolute with outer | inner
    · rw [Path.joinText_of_absolute outer, Path.joinText_of_absolute outer]
    · rw [Path.joinText_of_absolute inner, Path.joinText_of_absolute inner]
  rw [dataPath, dataPath, directory]

theorem files_declaredTable (t : FileTree) (root : Path) (source table : String) :
    (declaredTable t root source table).dataFile = dataPath root source table ∧
    ∀ p ∈ (declaredTable t root source table).files,
      p = dataPath root source table ∨ p = schemaPath root source table := by
  unfold declaredTable
  split <;> simp [Table.files]

end Manifest

/-! ### Scans -/

namespace Scan

variable {p q above : Path}

theorem within_of_sees (proper : t.Proper) (seen : t.Sees p q) : p.Within q := by
  obtain ⟨node, way, found, shown, -, rfl⟩ := seen
  obtain ⟨contents, down⟩ := shown.descend
  exact Path.within_below (proper.names_below found down)

/-- The directory above a file that a walk comes to is on the way. -/
theorem within_parent?_of_sees (proper : t.Proper) (directory : t.isDirectory p) (seen : t.Sees p q)
    (parent : q.parent? = some above) : p.Within above := by
  obtain ⟨node, way, found, shown, -, rfl⟩ := seen
  obtain ⟨contents, down⟩ := shown.descend
  have names := proper.names_below found down
  obtain rfl | ⟨front, n, rfl⟩ := List.eq_nil_or_concat' way
  · rw [FileTree.isDirectory, found] at directory
    obtain rfl := Option.some.inj down
    cases directory
  rw [List.foldl_concat] at parent
  have last : n.Proper := names n (by simp)
  have before : p.Within (front.foldl Path.child p) :=
    Path.within_below fun m member => names m (List.mem_append_left _ member)
  rw [Path.Within, Path.components_parent?_child last.idle parent]
  exact before

/-- What a scan finds lies within the root. -/
theorem within_discover (proper : t.Proper) (directory : t.isDirectory root) :
    (∀ s ∈ (discover t root).value.values, root.Within s.path) ∧
    ∀ source table tb, (discover t root).value.table? source table = some tb →
      ∀ p ∈ tb.files, root.Within p := by
  by_cases scripted : ∃ script, IsScript t root script
  · have lists := lists_scripts proper scripted
    have sees {script : Path} (h : IsScript t root script) : t.Sees root script :=
      (FileTree.reaches_iff_sees directory).1 h.1
    constructor
    · intro s member
      obtain ⟨script, least, parent⟩ := lists.located s member
      exact within_parent?_of_sees proper directory (sees least.1.1) parent
    · intro source table tb found p member
      obtain ⟨script, least, rfl⟩ := (lists.listed _ _ _).1 found
      obtain rfl : p = script := by simpa [Table.files] using member
      exact within_of_sees proper (sees least.1.1)
  · have lists := lists_directories proper scripted
    have below {directory : Path} {n : Name} (h : t.HasDirectory directory n) :
        directory.Within (directory.child n) := by
      have names : ∀ m ∈ [n], m.Proper := by simpa using h.name proper
      exact Path.within_below names
    constructor
    · intro s member
      obtain ⟨table, tb, listed⟩ := lists.exists_listed (lists.keyed.get? member)
      rw [lists.located s member]
      exact below listed.outer
    · intro source table tb found p member
      obtain ⟨-, outer, inner, counts⟩ := (lists.listed _ _ _).1 found
      refine ((below outer).trans (below inner)).trans (within_of_sees proper ?_)
      rcases List.mem_cons.1 member with rfl | described
      · exact counts.data.1.1
      · have schema := counts.schema
        rw [Option.mem_toList.1 described] at schema
        exact schema.1.1

end Scan

/-! ### Catalogs -/

/-- All paths of a catalog lie within its root, and the data files that a manifest gives stand where
their names say. -/
structure Confined (c : Catalog) : Prop where
  sources : ∀ s ∈ c.sources.values, c.root.Within s.path
  files : ∀ e ∈ c.tables, ∀ p ∈ e.2.files, c.root.Within p
  declared : c.origin = .manifest → ∀ e ∈ c.tables, e.2.dataFile.components =
    c.root.components ++ [.normal (.ofString e.1.name), .normal (.ofString e.2.name),
      .normal (.ofString (e.2.name ++ "." ++ parquetExtension))]

theorem table?_of_mem (built : (build t root).value = .ok c) {e : Source × Table}
    (member : e ∈ c.tables) : c.sources.table? e.1.name e.2.name = some e.2 := by
  have known := (sound_of_build built).keyed.table_names member
  obtain ⟨s, outer, inner⟩ := table_eq_ok_iff.1 known
  exact Option.bind_eq_some_iff.2 ⟨s, outer, inner⟩

/-- An empty path leads to no directory. -/
theorem octets_ne_nil_of_isDirectory (directory : t.isDirectory root) : root.octets ≠ [] := by
  rw [FileTree.isDirectory] at directory
  split at directory
  · next found =>
    obtain ⟨start, there, begun, -, -⟩ := FileTree.node_eq_ok_iff.1 found
    exact (FileTree.start_eq_ok_iff.1 begun).2.1
  · cases directory

/-- The files of a table that a manifest gives are where the names lead. -/
theorem declared_of_build (built : (build t root).value = .ok c) (declared : c.origin = .manifest) :
    (∀ s ∈ c.sources.values, s.path = root.joinText s.name) ∧
    ∀ e ∈ c.tables, e.2.dataFile = Manifest.dataPath root e.1.name e.2.name ∧
      ∀ p ∈ e.2.files, p = Manifest.dataPath root e.1.name e.2.name ∨
        p = Manifest.schemaPath root e.1.name e.2.name := by
  obtain ⟨-, -, given, -⟩ := sources_of_build built
  obtain ⟨names, same⟩ := Manifest.exists_declared (given declared)
  have lists := Manifest.lists_ofDeclared t root names
  rw [← same] at lists
  refine ⟨lists.located, fun e member => ?_⟩
  obtain ⟨-, made⟩ := (lists.listed _ _ _).1 (table?_of_mem built member)
  obtain ⟨-, declared⟩ := Manifest.declared?_eq_some_iff.1 made
  have files := Manifest.files_declaredTable t root e.1.name e.2.name
  rwa [← declared] at files

/-- The files of a table that a manifest gives lie within the root if its names do not climb, and
with names that start over they do not depend on the root. -/
structure Led (root : Path) (e : Source × Table) : Prop where
  within_iff : (Path.ofString e.1.name).isAbsolute = false →
    (Path.ofString e.2.name).isAbsolute = false →
    ∀ p ∈ e.2.files, (root.Within p ↔ StaysBelow e.1.name ∧ StaysBelow e.2.name)
  anew : (Path.ofString e.1.name).isAbsolute ∨ (Path.ofString e.2.name).isAbsolute →
    ∀ root', e.2.dataFile = Manifest.dataPath root' e.1.name e.2.name

/-- A table from a manifest has the files that its names lead to. -/
theorem led_of_build (built : (build t root).value = .ok c) (declared : c.origin = .manifest)
    {e : Source × Table} (member : e ∈ c.tables) : Led root e := by
  obtain ⟨data, files⟩ := (declared_of_build built declared).2 e member
  have filled := octets_ne_nil_of_isDirectory (sources_of_build built).2.1
  refine ⟨fun outer inner p among => ?_, fun absolute root' => ?_⟩
  · rcases files p among with rfl | rfl
    · exact Manifest.within_dataPath_iff filled outer inner
    · exact Manifest.within_schemaPath_iff filled outer inner
  · rw [data, Manifest.dataPath_of_absolute absolute]

/-- A catalog whose names are single components has all its files below the root. -/
theorem confined_of_components (built : (build t root).value = .ok c)
    (declared : c.origin = .manifest)
    (names : ∀ e ∈ c.tables, IsComponent e.1.name ∧ IsComponent e.2.name) : c.Confined := by
  have filled := octets_ne_nil_of_isDirectory (sources_of_build built).2.1
  obtain ⟨sources, files⟩ := declared_of_build built declared
  obtain ⟨rfl, -⟩ := sources_of_build built
  refine ⟨fun s member => ?_, fun e member p among => ?_, fun _ e member => ?_⟩
  · obtain ⟨table, tb, inside⟩ :=
      NameMap.isEmpty_eq_false_iff.1 ((sound_of_build built).filled s member)
    have listed : (s, tb) ∈ c.tables :=
      mem_tables_iff.2 ⟨member, NameMap.mem_values_of_get? inside⟩
    have name := (names _ listed).1
    exact ⟨[.ofString s.name], by
      rw [sources s member, (Path.components_joinText_eq_iff filled).2 name]; rfl⟩
  · obtain ⟨outer, inner⟩ := names e member
    have led := (led_of_build built declared member).within_iff outer.staysBelow.relative
      inner.staysBelow.relative p among
    exact led.2 ⟨outer.staysBelow, inner.staysBelow⟩
  · rw [(files e member).1]
    exact (Manifest.components_dataPath_eq_iff filled).2 (names e member)

/-- **Confinement.** A catalog that a scan found is confined to its root. One that a manifest gave is
confined exactly if each name in it is one component of a path. Otherwise the names decide alone
where the files of a table lie: within the root if they stay below it, and anywhere if they climb or
start over. -/
theorem confined_iff (proper : t.Proper) (built : (build t root).value = .ok c) :
    (c.origin = .directoryScan → c.Confined) ∧
    (c.origin = .manifest →
      (c.Confined ↔ ∀ e ∈ c.tables, IsComponent e.1.name ∧ IsComponent e.2.name) ∧
      ∀ e ∈ c.tables, Led root e) := by
  obtain ⟨rfl, directory, -, scanned⟩ := sources_of_build built
  refine ⟨fun origin => ?_, fun manifest => ⟨⟨fun h e member => ?_, ?_⟩, fun e member => ?_⟩⟩
  · obtain ⟨sources, files⟩ := Scan.within_discover proper directory
    rw [← scanned origin] at sources files
    exact ⟨sources, fun e member => files _ _ _ (table?_of_mem built member), by simp [origin]⟩
  · have data := h.declared manifest e member
    rw [((declared_of_build built manifest).2 e member).1] at data
    exact (Manifest.components_dataPath_eq_iff (octets_ne_nil_of_isDirectory directory)).1 data
  · exact confined_of_components built manifest
  · exact led_of_build built manifest member

/-- A manifest whose names are components gives a confined catalog. -/
theorem ordersTree_confined : Manifest.ordersTree.Proper ∧
    ∃ c, (build Manifest.ordersTree here).value = .ok c ∧ c.Confined := by
  have proper := Manifest.ordersTree_proper
  have read : Manifest.read Manifest.ordersTree (here.joinText Manifest.fileName) =
      .ok Manifest.ordersManifest := Manifest.read_treeOf Manifest.read_ordersText
  obtain ⟨c, built, listed, -⟩ := Manifest.exists_build Manifest.withManifest_directory read
    Manifest.ordersManifest_shaped (Manifest.ordersManifest_declares.2 ⟨rfl, rfl⟩)
    Manifest.ordersTree_file
  refine ⟨proper, c, built, ?_⟩
  obtain ⟨scanned, given⟩ := confined_iff proper built
  cases origin : c.origin with
  | directoryScan => exact scanned origin
  | manifest =>
    refine (given origin).1.2 fun e member => ?_
    obtain ⟨outer, inner⟩ := Manifest.ordersManifest_declares.1 (listed e member).1
    rw [outer, inner]
    exact ⟨⟨by decide, by decide⟩, by decide, by decide⟩

/-! ### A source that climbs -/

/-- A manifest with the directory above as a source. -/
def climbingText : String :=
  "\x7b\"sources\": \x7b\"..\": \x7b\"tables\": \x7b\"secret\": \x7b\x7d\x7d\x7d\x7d\x7d"

/-- What the manifest says. -/
def climbingManifest : Json := .object [
  ("sources", .object [("..", .object [("tables", .object [("secret", .object [])])])])]

/-- A data root with the manifest, and a secret beside the root. -/
def climbingTree : FileTree where
  root := .directory [
    (.ofString "data", .directory [(.ofString "manifest.json", .file (Text.octets climbingText))]),
    (.ofString "secret", .directory [(.ofString "secret.parquet", .file [])])]
  work := []

/-- The data root. -/
def dataRoot : Path := here.child (.ofString "data")

set_option maxRecDepth 40000 in
theorem read_climbingText : Json.read climbingText = .ok climbingManifest := by
  rfl

theorem climbingTree_proper : climbingTree.Proper :=
  FileTree.proper_of_names (by decide)

theorem climbingTree_secret : climbingTree.isFile (Manifest.dataPath dataRoot ".." "secret") := by
  have path : Manifest.dataPath dataRoot ".." "secret" =
      ⟨[.dot, .ofString "data", .dotDot, .ofString "secret", .ofString "secret.parquet"]⟩ := by
    decide
  have stays : climbingTree.move [] .dot = .step [] := rfl
  have enters : climbingTree.move [] (.ofString "data") = .step [.ofString "data"] := rfl
  have leaves : climbingTree.move [.ofString "data"] .dotDot = .step [] := rfl
  have beside : climbingTree.move [] (.ofString "secret") = .step [.ofString "secret"] := rfl
  have ends : climbingTree.move [.ofString "secret"] (.ofString "secret.parquet") =
      .step [.ofString "secret", .ofString "secret.parquet"] := rfl
  have node : climbingTree.node (Manifest.dataPath dataRoot ".." "secret") = .ok (.file []) := by
    refine FileTree.node_eq_ok_iff.2 ⟨[], [.ofString "secret", .ofString "secret.parquet"], ?_, ?_, rfl⟩
    · rw [path]
      rfl
    · simp only [path, FileTree.follow_cons, stays, enters, leaves, beside, ends, FileTree.follow_nil]
  rw [FileTree.isFile, node]

/-- The secret is a table of the catalog. -/
theorem climbingTree_not_confined : climbingTree.Proper ∧
    ∃ c, (build climbingTree dataRoot).value = .ok c ∧
      (∃ e ∈ c.tables, e.2.dataFile = Path.ofString "./data/../secret/secret.parquet") ∧
      ¬c.Confined := by
  have proper := climbingTree_proper
  have leads : climbingTree.node here = .ok climbingTree.root := FileTree.node_dot rfl
  have data : climbingTree.node dataRoot = .ok (.directory [
      (.ofString "manifest.json", .file (Text.octets climbingText))]) := by
    show climbingTree.node ([Name.ofString "data"].foldl Path.child here) = _
    exact FileTree.node_below proper leads rfl (by simp) (by decide)
  have directory : climbingTree.isDirectory dataRoot := by rw [FileTree.isDirectory, data]
  have path : dataRoot.joinText Manifest.fileName =
      [Name.ofString "manifest.json"].foldl Path.child dataRoot :=
    Path.joinText_of_part (by decide) dataRoot
  have read : Manifest.read climbingTree (dataRoot.joinText Manifest.fileName) =
      .ok climbingManifest := by
    refine Manifest.read_of_node ?_ read_climbingText
    rw [path]
    exact FileTree.node_below proper data rfl (by simp) (by decide)
  have shaped : Manifest.Shaped climbingManifest :=
    .sources rfl rfl (by simpa using ⟨_, rfl, .inr ⟨_, rfl⟩⟩)
  have declares : Manifest.Declares climbingManifest ".." "secret" :=
    .sources rfl rfl rfl rfl rfl
  obtain ⟨c, built, listed, complete⟩ :=
    Manifest.exists_build directory read shaped declares climbingTree_secret
  obtain ⟨e, member, source, table⟩ := complete ".." "secret" declares climbingTree_secret
  have file : e.2.dataFile = Manifest.dataPath dataRoot ".." "secret" := by
    rw [(listed e member).2.2, (Manifest.files_declaredTable ..).1, source, table]
  refine ⟨proper, c, built, ⟨e, member, file.trans (by decide)⟩, fun confined => ?_⟩
  have within : dataRoot.Within e.2.dataFile :=
    (sources_of_build built).1 ▸ confined.files e member _ List.mem_cons_self
  rw [file, Manifest.within_dataPath_iff (by decide) (by decide) (by decide)] at within
  exact absurd within.1.level (by decide)

end DataShelf.Catalog
