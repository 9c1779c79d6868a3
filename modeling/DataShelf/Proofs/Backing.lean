import DataShelf.Catalog.Discovery
import DataShelf.Proofs.FileNames
import DataShelf.Proofs.NameMap
import DataShelf.Proofs.Walking

/-!
# What backs the tables of a source

The builders of sources, from a manifest, from scripts and from directories, all go table by table
and source by source. Each of them keeps that tables of one kind stand under their own names in
sources that are not empty, and that the files they name are in the tree (`SourceMap.Backed`). So
this holds of what they build (`Manifest.backed_discover`, `Scan.backed_discover`).
-/

namespace DataShelf.Catalog
set_option autoImplicit false

open Files (Path FileTree)

variable {t : FileTree} {kind : TableKind}

/-! ### Tables, sources, maps of sources -/

/-- The files that a table names. -/
def Table.files (tb : Table) : List Path := tb.dataFile :: tb.schemaFile.toList

/-- A table of a given kind whose files are in the tree. Fields come from a schema file, and a
script has none. -/
structure Table.Backed (t : FileTree) (kind : TableKind) (tb : Table) : Prop where
  files : ∀ p ∈ tb.files, t.HoldsFile p
  fields : tb.schemaFile = none → tb.schemaFields = []
  bare : kind = .sqlScript → tb.schemaFile = none
  kind : tb.kind = kind

/-- A source whose tables stand under their own names and have the same kind. -/
structure Source.Backed (t : FileTree) (kind : TableKind) (s : Source) : Prop where
  keyed : s.tables.KeyedBy Table.name
  tables : ∀ tb ∈ s.tables.values, tb.Backed t kind

/-- Sources that stand under their own names and are not empty. -/
structure SourceMap.Backed (t : FileTree) (kind : TableKind) (m : SourceMap) : Prop where
  keyed : m.KeyedBy Source.name
  filled : ∀ s ∈ m.values, s.tables.isEmpty = false
  sources : ∀ s ∈ m.values, s.Backed t kind

/-- A table without a schema file is backed by a data file that is there and is of the kind that its
path tells. -/
theorem Table.Backed.of_data {p : Path} (held : t.HoldsFile p) (read : TableKind.ofPath p = kind)
    (name : String) : (Table.of name p none []).Backed t kind where
  files := by simpa [Table.of, Table.files] using held
  fields := fun _ => rfl
  bare := fun _ => rfl
  kind := read

/-- A table with a schema file is of columns, and both of its files are there. -/
theorem Table.Backed.of_schema {p q : Path} (held : t.HoldsFile p) (described : t.HoldsFile q)
    (read : TableKind.ofPath p = .parquet) (name : String) (fields : List SchemaField) :
    (Table.of name p (some q) fields).Backed t .parquet where
  files := by simpa [Table.of, Table.files] using ⟨held, described⟩
  fields := nofun
  bare := nofun
  kind := read

theorem Source.Backed.of (name : String) (path : Path) : (Source.of name path).Backed t kind where
  keyed := NameMap.keyedBy_empty _
  tables := fun _ member => absurd member List.not_mem_nil

theorem Source.Backed.add {s : Source} {tb : Table} (h : s.Backed t kind) (new : tb.Backed t kind) :
    (s.add tb).Backed t kind where
  keyed := h.keyed.insert rfl
  tables := fun other member => (NameMap.mem_values_insert member).elim
    (fun same => same ▸ new) (h.tables other)

/-- A source that is filled step by step from nothing. -/
theorem Source.Backed.foldlM {α : Type} {f : Source → α → Traced Source}
    (step : ∀ s, s.Backed t kind → ∀ a, (f s a).value.Backed t kind ∧ (f s a).value.name = s.name)
    (name : String) (path : Path) (l : List α) :
    (l.foldlM f (Source.of name path)).value.Backed t kind ∧
      (l.foldlM f (Source.of name path)).value.name = name :=
  Traced.value_foldlM (P := fun s : Source => s.Backed t kind ∧ s.name = name) ⟨.of name path, rfl⟩
    fun s hs a _ => by
      obtain ⟨backed, same⟩ := step s hs.1 a
      exact ⟨backed, same.trans hs.2⟩

theorem SourceMap.Backed.empty : SourceMap.Backed t kind .empty where
  keyed := NameMap.keyedBy_empty _
  filled := fun _ member => absurd member List.not_mem_nil
  sources := fun _ member => absurd member List.not_mem_nil

/-- A backed source that has tables can stand in a backed map under its name. -/
theorem SourceMap.Backed.insert {m : SourceMap} {s : Source} {name : String}
    (h : m.Backed t kind) (new : s.Backed t kind) (named : s.name = name)
    (filled : s.tables.isEmpty = false) : SourceMap.Backed t kind (m.insert name s) where
  keyed := h.keyed.insert named
  filled := fun other member => (NameMap.mem_values_insert member).elim
    (fun same => same ▸ filled) (h.filled other)
  sources := fun other member => (NameMap.mem_values_insert member).elim
    (fun same => same ▸ new) (h.sources other)

/-! ### From a manifest -/

namespace Manifest

/-- A declared table that is added to a source has its file there, and the source keeps its name. -/
theorem backed_addTable {s : Source} (h : s.Backed t .parquet) (name : String) :
    (addTable t s name).value.Backed t .parquet ∧ (addTable t s name).value.name = s.name := by
  unfold addTable
  split
  · exact ⟨h, rfl⟩
  dsimp only
  split
  · next there =>
    have held := FileTree.holdsFile_of_isFile there
    have read := TableKind.ofPath_joinText (s.path.joinText name) name
    split
    · next described =>
      exact ⟨h.add (.of_schema held (FileTree.holdsFile_of_isFile described) read name _), rfl⟩
    · exact ⟨h.add (.of_data held read name), rfl⟩
  · exact ⟨h, rfl⟩

/-- A declared source that is added to a map is backed. -/
theorem backed_addSource {m : SourceMap} (h : m.Backed t .parquet) (root : Path)
    (declared : String × List String) :
    SourceMap.Backed t .parquet (addSource t root m declared).value := by
  have tables := Source.Backed.foldlM (f := addTable t) (fun _ hs => backed_addTable hs)
    declared.1 (root.joinText declared.1) declared.2
  simp only [addSource, Traced.value_bind]
  split
  · exact h
  · next filled => exact h.insert tables.1 tables.2 (by simpa using filled)

/-- What a manifest leads to is backed by the data files that it names. -/
theorem backed_discover {root : Path} {m : SourceMap} (found : (discover t root).value = some m) :
    m.Backed t .parquet := by
  have built (declared : NameMap (List String)) :
      SourceMap.Backed t .parquet (ofDeclared t root declared).value :=
    Traced.value_foldlM .empty fun m h e _ => backed_addSource h root e
  unfold discover at found
  dsimp only at found
  split at found
  · split at found
    · simp at found
    · next manifest _ =>
      rw [Traced.value_bind] at found
      split at found
      · next declared _ =>
        obtain rfl : (ofDeclared t root declared).value = m := by simpa using found
        exact built declared
      · simp at found
  · simp at found

end Manifest

/-! ### From scripts and directories -/

namespace Scan

/-- A script that is added to a map backs its table. -/
theorem backed_addScript {m : SourceMap} (h : m.Backed t .sqlScript) {script : Path}
    (held : t.HoldsFile script) (sql : script.hasExtension sqlExtension) :
    SourceMap.Backed t .sqlScript (addScript m script).value := by
  unfold addScript
  split
  · exact h
  · next above sourceName tableName _ =>
    have source : ((m.get? sourceName).getD (.of sourceName above)).Backed t .sqlScript ∧
        ((m.get? sourceName).getD (.of sourceName above)).name = sourceName := by
      cases known : m.get? sourceName with
      | none => exact ⟨.of _ _, rfl⟩
      | some s =>
        have entry := NameMap.get?_eq_some_iff.1 known
        exact ⟨h.sources s (List.mem_map.2 ⟨_, entry, rfl⟩), h.keyed _ entry⟩
    dsimp only
    split
    · exact h
    · exact h.insert (source.1.add (.of_data held (TableKind.ofPath_of_sql sql) tableName))
        source.2 (NameMap.isEmpty_insert _ _)

/-- The table of a directory is backed by the files that were found below it. -/
theorem backed_table? {name : String} {directory : Path} {tb : Table}
    (found : (table? t name directory).value = some tb) : tb.Backed t .parquet := by
  simp only [table?, Traced.value_bind] at found
  split at found
  · simp at found
  · next dataFile _ data =>
    obtain ⟨seen, parquet⟩ := FileTree.mem_findFiles (data ▸ List.mem_cons_self)
    have read := TableKind.ofPath_of_parquet parquet
    rw [Traced.value_bind] at found
    split at found
    · obtain rfl : Table.of name dataFile none [] = tb := by simpa using found
      exact .of_data seen.holdsFile read name
    · next schemaFile _ schema =>
      obtain ⟨described, -⟩ := FileTree.mem_findFiles (schema ▸ List.mem_cons_self)
      obtain rfl : Table.of name dataFile (some schemaFile)
          (loadSchema t schemaFile).value = tb := by simpa using found
      exact .of_schema seen.holdsFile described.holdsFile read name _

/-- The table of a directory that is added to a source is backed, and the source keeps its name. -/
theorem backed_addTable {s : Source} (h : s.Backed t .parquet) (directory : Path) :
    (addTable t s directory).value.Backed t .parquet ∧
      (addTable t s directory).value.name = s.name := by
  unfold addTable
  split
  · exact ⟨h, rfl⟩
  · next name _ =>
    rw [Traced.value_bind]
    split
    · next tb found => exact ⟨h.add (backed_table? found), rfl⟩
    · exact ⟨h, rfl⟩

/-- The source of a directory that is added to a map is backed. -/
theorem backed_addSource {m : SourceMap} (h : m.Backed t .parquet) (directory : Path) :
    SourceMap.Backed t .parquet (addSource t m directory).value := by
  unfold addSource
  split
  · exact h
  · split
    · exact h
    · next name _ =>
      split
      · exact h
      · have tables := Source.Backed.foldlM (f := addTable t) (fun _ hs => backed_addTable hs) name
          directory (t.subdirectories directory).value
        simp only [Traced.value_bind]
        split
        · exact h
        · next filled => exact h.insert tables.1 tables.2 (by simpa using filled)

/-- The tree holds a script that a scan of a path sees. -/
def SeesScript (t : FileTree) (p : Path) : Prop := ∃ q, t.Sees p q ∧ q.hasExtension sqlExtension

theorem backed_ofScripts {scripts : List Path}
    (h : ∀ q ∈ scripts, t.HoldsFile q ∧ q.hasExtension sqlExtension) :
    SourceMap.Backed t .sqlScript (ofScripts scripts).value :=
  Traced.value_foldlM .empty fun _ hm q hq => backed_addScript hm (h q hq).1 (h q hq).2

theorem backed_ofDirectories (t : FileTree) (root : Path) :
    SourceMap.Backed t .parquet (ofDirectories t root).value :=
  Traced.value_foldlM .empty fun _ hm directory _ => backed_addSource hm directory

/-- Where a scan sees a script, all that it finds are scripts, and none where it sees none. -/
theorem backed_discover {root : Path} (directory : t.isDirectory root) :
    (SeesScript t root → SourceMap.Backed t .sqlScript (discover t root).value) ∧
    (¬SeesScript t root → SourceMap.Backed t .parquet (discover t root).value) := by
  have listed (q : Path) :=
    FileTree.mem_findFiles_iff (q := q) (fun p => p.hasExtension sqlExtension) directory
  simp only [discover, Traced.value_bind]
  split
  · next unseen =>
    refine ⟨fun ⟨q, sees⟩ => ?_, fun _ => backed_ofDirectories t root⟩
    have member := (listed q).2 sees
    rw [unseen] at member
    cases member
  · next scripts found =>
    refine ⟨fun _ => backed_ofScripts fun q hq => ?_, fun unseen => ?_⟩
    · obtain ⟨sees, sql⟩ := (listed q).1 hq
      exact ⟨sees.holdsFile, sql⟩
    · obtain ⟨q, hq⟩ := List.exists_mem_of_ne_nil _ found
      exact absurd ⟨q, (listed q).1 hq⟩ unseen

end Scan

end DataShelf.Catalog
