import DataShelf.Proofs.DeclaredTables
import DataShelf.Proofs.Removal

/-!
# Falling back to the directories

A manifest gives nothing for one of seven reasons (`Manifest.GivesNothing`), and then a catalog has
what a scan finds in the tree without the manifest (`build_falls_back`). For a scan looks for scripts,
data files and schema files only, and a manifest has the name of none of them: taken out or not, it
changes nothing (`Scan.discover_without`).
-/

namespace DataShelf.Catalog
set_option autoImplicit false

open Files (Name Path FileTree)

variable {t t' : FileTree} {root : Path}

/-! ### Files that a scan does not look for -/

namespace Scan

/-- A name that is that of no script, no data file and no schema file. -/
structure Ignored (n : Name) : Prop where
  script : n.hasExtension sqlExtension = false
  data : n.hasExtension parquetExtension = false
  schema : ∀ front, n ≠ .ofString (front ++ schemaSuffix)

section Ignored

variable {spot : List Name} {n : Name} {p q directory : Path}

theorem Ignored.other_of_extension {extension : String} (ignored : n.hasExtension extension = false)
    (wanted : q.hasExtension extension) : q.fileName? ≠ some n := by
  intro named
  rw [Path.hasExtension, named] at wanted
  simp [ignored] at wanted

theorem Ignored.other_of_schema (ignored : Ignored n) (wanted : NamedAsSchema q) :
    q.fileName? ≠ some n := by
  obtain ⟨front, named⟩ := wanted
  rw [named]
  exact fun same => ignored.schema front (Option.some.inj same).symm

variable (lacks : FileTree.LacksDeadEnd spot n t t') (ignored : Ignored n) (proper : t.Proper)

include lacks ignored in
theorem isScript_iff (leads : t.isDirectory root) {script : Path} :
    IsScript t' root script ↔ IsScript t root script := by
  have leads' : t'.isDirectory root := by rwa [lacks.isDirectory]
  rw [IsScript, IsScript, FileTree.reaches_iff_sees leads, FileTree.reaches_iff_sees leads']
  exact and_congr_left fun sql =>
    lacks.sees_iff leads (Ignored.other_of_extension ignored.script sql)

/-- A table is one in another tree where the same files of the wanted names are seen and load. -/
theorem IsTable.transfer {name : String} {tb : Table} (h : IsTable t NamedAsSchema directory name tb)
    (data : ∀ p, t.Sees directory p ∧ p.hasExtension parquetExtension ↔
      t'.Sees directory p ∧ p.hasExtension parquetExtension)
    (schema : ∀ p, t.Sees directory p ∧ NamedAsSchema p ↔ t'.Sees directory p ∧ NamedAsSchema p)
    (loaded : ∀ p, t.Sees directory p → NamedAsSchema p → loadSchema t' p = loadSchema t p) :
    IsTable t' NamedAsSchema directory name tb := by
  obtain ⟨_, file, schemaFile, fields, _⟩ := tb
  obtain ⟨named, least, described, read, kind⟩ := h
  have least' := by simpa only [data] using least
  cases schemaFile with
  | none =>
    have bare : ∀ p, t'.Sees directory p → ¬NamedAsSchema p := by
      intro p seen wanted
      obtain ⟨seen, -⟩ := (schema p).2 ⟨seen, wanted⟩
      exact described p seen wanted
    exact ⟨named, least', bare, read, kind⟩
  | some p =>
    refine ⟨named, least', by simpa only [schema] using described, ?_, kind⟩
    rw [read, Option.map_some, Option.map_some, loaded p described.1.1 described.1.2]

include lacks ignored proper

/-- What counts as a table does without the ignored file too. -/
theorem isTable_iff (leads : t.isDirectory directory) {name : String} {tb : Table} :
    IsTable t' NamedAsSchema directory name tb ↔ IsTable t NamedAsSchema directory name tb := by
  have data (p : Path) : t'.Sees directory p ∧ p.hasExtension parquetExtension ↔
      t.Sees directory p ∧ p.hasExtension parquetExtension :=
    and_congr_left fun wanted =>
      lacks.sees_iff leads (Ignored.other_of_extension ignored.data wanted)
  have schema (p : Path) : t'.Sees directory p ∧ NamedAsSchema p ↔
      t.Sees directory p ∧ NamedAsSchema p :=
    and_congr_left fun wanted => lacks.sees_iff leads (ignored.other_of_schema wanted)
  have loaded (p : Path) (seen : t'.Sees directory p) : loadSchema t' p = loadSchema t p := by
    rw [loadSchema, loadSchema, lacks.readText_of_sees proper seen]
  constructor
  · intro h
    exact h.transfer data schema fun p seen _ => (loaded p seen).symm
  · intro h
    refine h.transfer (fun p => (data p).symm) (fun p => (schema p).symm) fun p seen wanted => ?_
    exact loaded p ((schema p).2 ⟨seen, wanted⟩).1

theorem isDirectoryTable_iff {source table : String} {tb : Table} :
    IsDirectoryTable t' NamedAsSchema root source table tb ↔
      IsDirectoryTable t NamedAsSchema root source table tb := by
  constructor
  · rintro ⟨visible, outer, inner, found⟩
    have inner := (lacks.hasDirectory_iff proper).1 inner
    exact ⟨visible, (lacks.hasDirectory_iff proper).1 outer, inner,
      (isTable_iff lacks ignored proper inner.leads).1 found⟩
  · rintro ⟨visible, outer, inner, found⟩
    exact ⟨visible, (lacks.hasDirectory_iff proper).2 outer, (lacks.hasDirectory_iff proper).2 inner,
      (isTable_iff lacks ignored proper inner.leads).2 found⟩

/-- A scan finds the same without a file that it does not look for. -/
theorem discover_of_lacks (leads : t.isDirectory root) :
    (discover t' root).value = (discover t root).value := by
  have proper' := lacks.tree_proper proper
  have scripts {script : Path} : IsScript t' root script ↔ IsScript t root script :=
    isScript_iff lacks ignored leads
  by_cases seen : ∃ script, IsScript t root script
  · have seen' : ∃ script, IsScript t' root script := by simpa only [scripts] using seen
    refine (lists_scripts proper' seen').unique (lists_scripts proper seen) ?_ ?_
    · intro source table tb
      simp only [scripts]
    · rintro source table tb p p' - ⟨script, least, parent⟩ ⟨script', least', parent'⟩
      simp only [scripts] at least
      obtain rfl := least.unique least'
      exact Option.some.inj (parent.symm.trans parent')
  · have plain' : ¬∃ script, IsScript t' root script := by simpa only [scripts] using seen
    refine (lists_directories proper' plain').unique (lists_directories proper seen) ?_ ?_
    · exact fun source table tb => isDirectoryTable_iff lacks ignored proper
    · rintro source table tb _ _ - rfl rfl
      rfl

end Ignored

/-- A manifest has a name that a scan does not look for. -/
theorem ignored_manifest : Ignored (.ofString Manifest.fileName) where
  script := by decide
  data := by decide
  schema := by
    intro front same
    have text := congrArg String.toList (Name.ofString_injective same)
    have ends : schemaSuffix.toList <:+ Manifest.fileName.toList := ⟨front.toList, by simp [text]⟩
    exact absurd ends (by decide)

/-- A scan finds the same whether the manifest is there or not. -/
theorem discover_without {spot : List Name} {entries : List (Name × Files.Node)}
    (proper : t.Proper) (leads : t.locate true root = .ok spot)
    (here : t.root.descend spot = some (.directory entries))
    (ends : ¬t.LeadsToDirectory spot (.ofString Manifest.fileName)) :
    (discover (t.without spot (.ofString Manifest.fileName)) root).value =
      (discover t root).value := by
  have directory : t.isDirectory root := by
    rw [FileTree.isDirectory, FileTree.node_of_locate leads here]
  obtain ⟨agrees, gone⟩ := FileTree.agrees_without (n := .ofString Manifest.fileName) here
  have lacks : FileTree.LacksDeadEnd spot (.ofString Manifest.fileName) t _ :=
    ⟨agrees, gone, ends, by decide⟩
  exact discover_of_lacks lacks ignored_manifest proper directory

end Scan

/-! ### Manifests that give nothing -/

namespace Manifest

/-- The reasons why a manifest gives no source. It is not there, its octets are no text, the text is
not JSON, neither rendered files nor sources are in it, what is there does not have the right shape,
or no data file of a declared table is there. -/
inductive GivesNothing (t : FileTree) (root : Path) : Prop
  | missing (away : t.isFile (root.joinText fileName) = false)
  | notText {contents : List UInt8} (there : t.readFile (root.joinText fileName) = .ok contents)
      (garbled : Text.ofOctets? contents = none)
  | notJson {text : String} {fault : Json.Fault}
      (there : t.readText (root.joinText fileName) = .ok text) (flawed : Json.read text = .error fault)
  | noShape {j : Json} (there : read t (root.joinText fileName) = .ok j)
      (noFiles : key? j renderedKey = none) (noSources : key? j sourcesKey = none)
  | badFiles {j files : Json} {m : Json.Mismatch} (there : read t (root.joinText fileName) = .ok j)
      (held : key? j renderedKey = some files) (malformed : renderedTables files = .error m)
  | badSources {j sources : Json} {m : Json.Mismatch}
      (there : read t (root.joinText fileName) = .ok j) (noFiles : key? j renderedKey = none)
      (held : key? j sourcesKey = some sources) (malformed : sourceTables sources = .error m)
  | unreached {j : Json} {declared : NameMap (List String)}
      (there : read t (root.joinText fileName) = .ok j)
      (declares : (declaredTables? j).value = some declared)
      (away : ∀ source tables, declared.get? source = some tables → ∀ table ∈ tables,
        t.isFile (dataPath root source table) = false)

/-- A manifest declares nothing if it has neither shape or one that is malformed. -/
theorem declaredTables?_eq_none_iff {j : Json} : (declaredTables? j).value = none ↔
    (key? j renderedKey = none ∧ key? j sourcesKey = none) ∨
    (∃ files m, key? j renderedKey = some files ∧ renderedTables files = .error m) ∨
    ∃ sources m, key? j renderedKey = none ∧ key? j sourcesKey = some sources ∧
      sourceTables sources = .error m := by
  unfold declaredTables?
  cases files : key? j renderedKey with
  | some held => cases tables : renderedTables held <;> simp [tables]
  | none =>
    cases sources : key? j sourcesKey with
    | some held => cases tables : sourceTables held <;> simp [tables]
    | none => simp

theorem ofDeclared_isEmpty_iff {declared : NameMap (List String)} :
    (ofDeclared t root declared).value.isEmpty ↔
      ∀ source tables, declared.get? source = some tables → ∀ table ∈ tables,
        t.isFile (dataPath root source table) = false := by
  have lists := lists_ofDeclared t root declared
  constructor
  · intro empty source tables known table member
    by_contra there
    have found := (lists.listed source table _).2 ⟨⟨tables, known, member⟩,
      declared?_eq_some_iff.2 ⟨by simpa using there, rfl⟩⟩
    obtain ⟨s, held, -⟩ := Option.bind_eq_some_iff.1 found
    have filled := NameMap.isEmpty_eq_false_iff.2 ⟨source, s, held⟩
    simp [empty] at filled
  · intro away
    by_contra filled
    obtain ⟨source, s, held⟩ := NameMap.isEmpty_eq_false_iff.1 (Bool.eq_false_iff.2 filled)
    obtain ⟨table, tb, ⟨tables, known, member⟩, made⟩ := lists.exists_listed held
    have there := (declared?_eq_some_iff.1 made).1
    simp [away source tables known table member] at there

/-- What is found once the manifest is read. -/
theorem value_discover_of_read {j : Json} (there : read t (root.joinText fileName) = .ok j) :
    (discover t root).value =
      (declaredTables? j).value.map fun declared => (ofDeclared t root declared).value := by
  have file := isFile_of_read there
  simp only [discover, file, if_true, there, Traced.value_bind]
  cases (declaredTables? j).value <;> rfl

/-- Where a manifest declares something, it gives nothing only if no data file is there. -/
theorem GivesNothing.unreached_of_declares {j : Json} {declared : NameMap (List String)}
    (nothing : GivesNothing t root) (there : read t (root.joinText fileName) = .ok j)
    (declares : (declaredTables? j).value = some declared) :
    ∀ source tables, declared.get? source = some tables → ∀ table ∈ tables,
      t.isFile (dataPath root source table) = false := by
  obtain ⟨s, text, parsed⟩ := read_eq_ok_iff.1 there
  have same {j' : Json} (there' : read t (root.joinText fileName) = .ok j') : j' = j :=
    Except.ok.inj (there'.symm.trans there)
  have usable : ¬(declaredTables? j).value = none := by simp [declares]
  rw [declaredTables?_eq_none_iff] at usable
  cases nothing with
  | missing away => simp [isFile_of_read there] at away
  | notText held garbled =>
    rw [FileTree.readText, held] at text
    simp [bind, Except.bind, garbled] at text
  | notJson text' flawed =>
    obtain rfl := Except.ok.inj (text.symm.trans text')
    simp [parsed] at flawed
  | noShape there' noFiles noSources =>
    obtain rfl := same there'
    exact absurd (.inl ⟨noFiles, noSources⟩) usable
  | badFiles there' held bad =>
    obtain rfl := same there'
    exact absurd (.inr (.inl ⟨_, _, held, bad⟩)) usable
  | badSources there' noFiles held bad =>
    obtain rfl := same there'
    exact absurd (.inr (.inr ⟨_, _, noFiles, held, bad⟩)) usable
  | unreached there' declares' away =>
    obtain rfl := same there'
    obtain rfl := Option.some.inj (declares.symm.trans declares')
    exact away

/-- These are all the reasons. -/
theorem givesNothing_iff :
    GivesNothing t root ↔ ∀ m, (discover t root).value = some m → m.isEmpty := by
  by_cases file : t.isFile (root.joinText fileName)
  · obtain ⟨contents, held⟩ := FileTree.exists_readFile file
    cases spelled : Text.ofOctets? contents with
    | none =>
      have text : t.readText (root.joinText fileName) = .error .notText := by
        simp [FileTree.readText, held, spelled, bind, Except.bind]
      refine iff_of_true (.notText held spelled) fun m found => ?_
      simp [discover, file, read, text] at found
    | some s =>
      have text : t.readText (root.joinText fileName) = .ok s := by
        simp [FileTree.readText, held, spelled, bind, Except.bind]
      cases parsed : Json.read s with
      | error fault =>
        refine iff_of_true (.notJson text parsed) fun m found => ?_
        simp [discover, file, read, text, parsed] at found
      | ok j =>
        have there : read t (root.joinText fileName) = .ok j := read_eq_ok_iff.2 ⟨s, text, parsed⟩
        rw [value_discover_of_read there]
        cases declares : (declaredTables? j).value with
        | none =>
          refine iff_of_true ?_ (by simp)
          rcases declaredTables?_eq_none_iff.1 declares with
            ⟨noFiles, noSources⟩ | ⟨files, m, held, bad⟩ | ⟨sources, m, noFiles, held, bad⟩
          · exact .noShape there noFiles noSources
          · exact .badFiles there held bad
          · exact .badSources there noFiles held bad
        | some declared =>
          simp only [Option.map_some, Option.some.injEq, forall_eq', ofDeclared_isEmpty_iff]
          exact ⟨fun nothing => nothing.unreached_of_declares there declares,
            .unreached there declares⟩
  · have away := Bool.eq_false_iff.2 file
    exact iff_of_true (.missing away) (by simp [discover, away])

end Manifest

/-! ### The catalog without a manifest -/

/-- What directories hold is what a scan finds, also if that is nothing. -/
theorem value_scan (t : FileTree) (root : Path) :
    (discover.scan t root).value = (.directoryScan, (Scan.discover t root).value) := by
  rw [discover.scan, Traced.value_bind]
  split
  · next empty =>
    have nothing : (Scan.discover t root).value = .empty := by
      refine NameMap.ext_get? fun name => ?_
      cases found : (Scan.discover t root).value.get? name with
      | none => rfl
      | some s =>
        have filled := NameMap.isEmpty_eq_false_iff.2 ⟨name, s, found⟩
        simp [empty] at filled
    rw [nothing]
    rfl
  · rfl

/-- **Falling back.** Below a directory in which the manifest is no directory and no link to one, a
catalog is built whatever the manifest holds. If the manifest gives no source, for one of the known
reasons, the catalog has what a scan finds in the tree without the manifest. In all other cases it
has what the manifest gives. -/
theorem build_falls_back {spot : List Name} {entries : List (Name × Files.Node)}
    (proper : t.Proper) (leads : t.locate true root = .ok spot)
    (here : t.root.descend spot = some (.directory entries))
    (ends : ¬t.LeadsToDirectory spot (.ofString Manifest.fileName)) :
    (Manifest.GivesNothing t root ↔
      ∀ m, (Manifest.discover t root).value = some m → m.isEmpty) ∧
    ∃ c, (build t root).value = .ok c ∧ c.root = root ∧
      (Manifest.GivesNothing t root → c.origin = .directoryScan ∧
        c.sources = (Scan.discover (t.without spot (.ofString Manifest.fileName)) root).value) ∧
      (¬Manifest.GivesNothing t root → c.origin = .manifest ∧
        (Manifest.discover t root).value = some c.sources) := by
  have directory : t.isDirectory root := by
    rw [FileTree.isDirectory, FileTree.node_of_locate leads here]
  refine ⟨Manifest.givesNothing_iff, ⟨root, (discover t root).value.1, (discover t root).value.2⟩,
    ?_, rfl, fun nothing => ?_, fun something => ?_⟩
  · rw [build, if_pos directory]
    rfl
  · have found : (discover t root).value = (.directoryScan, (Scan.discover t root).value) := by
      rw [← value_scan, discover, Traced.value_bind]
      cases given : (Manifest.discover t root).value with
      | none => rfl
      | some m => simp only [Manifest.givesNothing_iff.1 nothing m given, if_true]
    rw [found, Scan.discover_without proper leads here ends]
    exact ⟨rfl, rfl⟩
  · rw [Manifest.givesNothing_iff] at something
    push Not at something
    obtain ⟨m, given, filled⟩ := something
    have found : (discover t root).value = (.manifest, m) := by
      simp [discover, given, filled]
    rw [found]
    exact ⟨rfl, given⟩

/-! ### A manifest that is not JSON -/

/-- The tree of one script with a manifest that is cut off. -/
def cutManifest : FileTree where
  root := .directory [(.ofString "manifest.json", .file (Text.octets "\x7b")),
    (.ofString "sales", .directory [(.ofString "orders.sql", .file [])])]
  work := []

/-- The catalog of such a tree is that of the script. -/
theorem cutManifest_falls_back :
    cutManifest.Proper ∧ cutManifest.locate true here = .ok [] ∧
    ¬cutManifest.LeadsToDirectory [] (.ofString Manifest.fileName) ∧
    Manifest.GivesNothing cutManifest here ∧
    ∃ c, (build cutManifest here).value = .ok c ∧ c.origin = .directoryScan ∧
      c.sources = salesCatalog.sources := by
  have proper : cutManifest.Proper := FileTree.proper_of_names (by decide)
  have leads : cutManifest.locate true here = .ok [] := FileTree.locate_dot rfl
  have manifest : cutManifest.root.descend [.ofString "manifest.json"] =
      some (.file (Text.octets "\x7b")) := by
    simp [cutManifest, Files.Node.named?]
  have ends : ¬cutManifest.LeadsToDirectory [] (.ofString Manifest.fileName) := by
    rintro ⟨there, entries, followed, found⟩
    have down : cutManifest.follow true FileTree.linkLimit [] [.ofString "manifest.json"] =
        .ok [.ofString "manifest.json"] := FileTree.follow_down proper rfl manifest (by simp)
    obtain rfl := Except.ok.inj (down.symm.trans followed)
    rw [manifest] at found
    cases found
  have path : here.joinText Manifest.fileName = [Name.ofString "manifest.json"].foldl Path.child here :=
    Path.joinText_of_part (by decide) here
  have node : cutManifest.node (here.joinText Manifest.fileName) =
      .ok (.file (Text.octets "\x7b")) := by
    rw [path]
    exact FileTree.node_below proper (FileTree.node_of_locate leads rfl) manifest (by simp)
      (by decide)
  have nothing : Manifest.GivesNothing cutManifest here := by
    have text : cutManifest.readText (here.joinText Manifest.fileName) = .ok "\x7b" :=
      FileTree.readText_eq_ok_iff.2 ⟨_, node, Text.ofOctets?_octets _⟩
    have flawed : Json.read "\x7b" = .error (.at (.flaw .endInObject) ⟨[], 1⟩) := by rfl
    exact .notJson text flawed
  obtain ⟨c, built, -, falls, -⟩ := (build_falls_back proper leads rfl ends).2
  have without : cutManifest.without [] (.ofString Manifest.fileName) = oneScript := by
    have dropped : Files.Node.dropEntry (.ofString Manifest.fileName) [
        (.ofString "manifest.json", .file (Text.octets "\x7b")),
        (.ofString "sales", .directory [(.ofString "orders.sql", .file [])])] =
        [(.ofString "sales", .directory [(.ofString "orders.sql", .file [])])] := rfl
    rw [FileTree.without, FileTree.alter, cutManifest, Files.Node.alter, dropped]
    rfl
  obtain ⟨origin, sources⟩ := falls nothing
  rw [without, oneScript_discover] at sources
  exact ⟨proper, leads, ends, nothing, c, built, origin, sources⟩

end DataShelf.Catalog
