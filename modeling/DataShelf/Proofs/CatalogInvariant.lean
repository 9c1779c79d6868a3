import DataShelf.Catalog.Basic
import DataShelf.Proofs.Backing
import DataShelf.Proofs.CatalogTables

/-!
# What holds of every catalog

The sources of a catalog come from a manifest or from a scan, and either way they are backed by
files of the tree. So every catalog is sound (`build_sound`): its sources and tables are well keyed,
no source is empty, the files of its tables are in the tree, and its tables are all scripts or all
data files, as the scan saw a script or not.
-/

namespace DataShelf.Catalog
set_option autoImplicit false

open Files (Path FileTree)

variable {t : FileTree}

/-- A scan tells that it was one. All that it found are scripts if it sees one, and otherwise none
is. -/
theorem backed_scan {root : Path} (directory : t.isDirectory root) :
    (discover.scan t root).value.1 = .directoryScan ∧
    (Scan.SeesScript t root → SourceMap.Backed t .sqlScript (discover.scan t root).value.2) ∧
    (¬Scan.SeesScript t root → SourceMap.Backed t .parquet (discover.scan t root).value.2) := by
  simp only [discover.scan, Traced.value_bind]
  split
  · exact ⟨rfl, fun _ => .empty, fun _ => .empty⟩
  · exact ⟨rfl, Scan.backed_discover directory⟩

/-- The sources below a directory are backed, by scripts if a scan found them that sees a script. -/
theorem backed_discover {root : Path} {origin : Origin} {m : SourceMap}
    (directory : t.isDirectory root) (found : (discover t root).value = (origin, m)) :
    (origin = .directoryScan ∧ Scan.SeesScript t root → m.Backed t .sqlScript) ∧
    (¬(origin = .directoryScan ∧ Scan.SeesScript t root) → m.Backed t .parquet) := by
  have scanned (same : (discover.scan t root).value = (origin, m)) :
      (origin = .directoryScan ∧ Scan.SeesScript t root → m.Backed t .sqlScript) ∧
      (¬(origin = .directoryScan ∧ Scan.SeesScript t root) → m.Backed t .parquet) := by
    obtain ⟨scan, sees, unseen⟩ := backed_scan directory
    rw [same] at scan sees unseen
    exact ⟨fun h => sees h.2, fun h => unseen fun seen => h ⟨scan, seen⟩⟩
  simp only [discover, Traced.value_bind] at found
  split at found
  · next sources declared =>
    split at found
    · exact scanned found
    · obtain ⟨rfl, rfl⟩ := Prod.mk.inj found
      exact ⟨nofun, fun _ => Manifest.backed_discover declared⟩
  · exact scanned found

/-- What a catalog promises of the tree that it was built from. Its sources and tables stand under
their own names, no source is empty, its files are in the tree, and fields come from a schema file.
Where a scan saw a script its tables are scripts without schema files, and elsewhere data files. -/
structure Sound (t : FileTree) (c : Catalog) : Prop where
  keyed : c.WellKeyed
  filled : ∀ s ∈ c.sources.values, s.tables.isEmpty = false
  files : ∀ e ∈ c.tables, ∀ p ∈ e.2.files, t.HoldsFile p
  fields : ∀ e ∈ c.tables, e.2.schemaFile = none → e.2.schemaFields = []
  scripts : c.origin = .directoryScan ∧ Scan.SeesScript t c.root →
    ∀ e ∈ c.tables, e.2.kind = .sqlScript ∧ e.2.schemaFile = none
  columns : ¬(c.origin = .directoryScan ∧ Scan.SeesScript t c.root) →
    ∀ e ∈ c.tables, e.2.kind = .parquet

theorem SourceMap.Backed.table {c : Catalog} {kind : TableKind}
    (h : c.sources.Backed t kind) {e : Source × Table} (member : e ∈ c.tables) :
    e.2.Backed t kind := by
  obtain ⟨source, table⟩ := mem_tables_iff.1 member
  exact (h.sources e.1 source).tables e.2 table

/-- A catalog is sound if its map is backed by what the way in which it was found calls for. -/
theorem sound_of_backed {c : Catalog}
    (scripts : c.origin = .directoryScan ∧ Scan.SeesScript t c.root → c.sources.Backed t .sqlScript)
    (columns : ¬(c.origin = .directoryScan ∧ Scan.SeesScript t c.root) →
      c.sources.Backed t .parquet) : c.Sound t := by
  obtain ⟨kind, backed⟩ : ∃ kind, c.sources.Backed t kind := by
    by_cases seen : c.origin = .directoryScan ∧ Scan.SeesScript t c.root
    · exact ⟨_, scripts seen⟩
    · exact ⟨_, columns seen⟩
  exact {
    keyed := ⟨backed.keyed, fun s hs => (backed.sources s hs).keyed⟩
    filled := backed.filled
    files := fun e he => (backed.table he).files
    fields := fun e he => (backed.table he).fields
    scripts := fun seen e he =>
      ⟨((scripts seen).table he).kind, ((scripts seen).table he).bare rfl⟩
    columns := fun unseen e he => ((columns unseen).table he).kind }

/-- A catalog that is built is sound for the tree. -/
theorem sound_of_build {root : Path} {c : Catalog} (built : (build t root).value = .ok c) :
    c.Sound t := by
  unfold build at built
  split at built
  · next directory =>
    obtain ⟨scripts, columns⟩ := backed_discover directory rfl
    obtain rfl := Except.ok.inj built
    exact sound_of_backed scripts columns
  · cases built

/-- **The catalog invariant.** A catalog is built for every root that is a directory, and it is sound
for the tree. In a tree of proper names the path of each file of a table leads to it, unless it is
too long to be followed. -/
theorem build_sound (t : FileTree) (root : Path) :
    match (build t root).value with
    | .error _ => t.isDirectory root = false
    | .ok c =>
      c.root = root ∧ c.Sound t ∧
      (t.Proper → ∀ e ∈ c.tables, ∀ p ∈ e.2.files, p.octets.length ≤ FileTree.longestPath →
        t.isFile p) := by
  unfold build
  by_cases directory : t.isDirectory root
  · obtain ⟨scripts, columns⟩ := backed_discover directory rfl
    have sound : (⟨root, (discover t root).value.1, (discover t root).value.2⟩ : Catalog).Sound t :=
      sound_of_backed scripts columns
    rw [if_pos directory]
    exact ⟨rfl, sound, fun proper e he p hp short => (sound.files e he p hp).isFile proper short⟩
  · rw [if_neg directory]
    simpa using directory

/-! ### A tree of one script -/

/-- A directory of sales with the script of orders in it. -/
def oneScript : FileTree where
  root := .directory [(.ofString "sales", .directory [(.ofString "orders.sql", .file [])])]
  work := []

/-- The path of the working directory. -/
def here : Path := ⟨[.dot]⟩

/-- The path of the script. -/
def ordersScript : Path := (here.child (.ofString "sales")).child (.ofString "orders.sql")

/-- The catalog of the script. -/
def salesCatalog : Catalog where
  root := here
  origin := .directoryScan
  sources := NameMap.empty.insert "sales"
    ((Source.of "sales" (here.child (.ofString "sales"))).add
      (Table.of "orders" ordersScript none []))

theorem oneScript_node : oneScript.node here = .ok oneScript.root := by
  refine FileTree.node_eq_ok_iff.2 ⟨[], [], rfl, ?_, rfl⟩
  have stays : oneScript.move [] .dot = .step [] := rfl
  simp [here, FileTree.follow_cons, stays]

theorem oneScript_manifest :
    oneScript.isFile (here.joinText Manifest.fileName) = false := by
  have segments : (here.joinText Manifest.fileName).segments =
      [.dot, .ofString Manifest.fileName] := by decide
  have begun : oneScript.start (here.joinText Manifest.fileName) = .ok [] := rfl
  have stays : oneScript.move [] .dot = .step [] := rfl
  have missing : oneScript.move [] (.ofString Manifest.fileName) = .fail .notFound := rfl
  simp [FileTree.isFile, FileTree.node, FileTree.locate, begun, segments, FileTree.follow_cons,
    stays, missing, bind, Except.bind]

/-- The only script of the tree is that of orders. -/
theorem oneScript_scripts :
    (oneScript.findFiles here fun p => p.hasExtension sqlExtension).value = [ordersScript] := by
  have ways : oneScript.root.waysTo Files.Node.isFile =
      [[.ofString "sales", .ofString "orders.sql"]] := by
    have visible : (Files.Name.ofString "sales").isHidden = false := by decide
    simp [oneScript, Files.waysToFiles_directory, Files.waysToFiles_file, Files.waysThrough,
      Files.inOrder, Files.firstOfEach, Files.Node.isDirectory, visible]
  rw [FileTree.findFiles_directory oneScript_node, FileTree.filesBelow]
  change (((oneScript.root.waysTo _).filter _).map _).filter _ = _
  rw [ways]
  decide

/-- A scan of the tree leads to the catalog of sales. -/
theorem oneScript_discover : (Scan.discover oneScript here).value = salesCatalog.sources := by
  have names : Scan.scriptNames? ordersScript =
      some (here.child (.ofString "sales"), "sales", "orders") := by decide
  simp only [Scan.discover, Traced.value_bind, oneScript_scripts, Scan.ofScripts,
    List.foldlM_cons, Scan.addScript, names]
  rfl

/-- The tree is built into the catalog of sales. -/
theorem oneScript_build : (build oneScript here).value = .ok salesCatalog := by
  have directory : oneScript.isDirectory here := by
    rw [FileTree.isDirectory, oneScript_node]
    rfl
  have filled : salesCatalog.sources.isEmpty = false := by decide
  have manifest : (Manifest.discover oneScript here).value = none := by
    simp [Manifest.discover, oneScript_manifest]
  have found : (discover oneScript here).value = (.directoryScan, salesCatalog.sources) := by
    simp [discover, discover.scan, manifest, oneScript_discover, filled]
  rw [build, if_pos directory, Traced.value_bind, found]
  rfl

/-- The catalog of the script is what is built, and it is sound. -/
theorem salesCatalog_sound :
    (build oneScript here).value = .ok salesCatalog ∧ salesCatalog.tableCount = 1 ∧
      salesCatalog.Sound oneScript := by
  have sound := build_sound oneScript here
  rw [oneScript_build] at sound
  exact ⟨oneScript_build, by decide, sound.2.1⟩

end DataShelf.Catalog
