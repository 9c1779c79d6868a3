import DataShelf.CommandLine.Run
import DataShelf.Proofs.Trace

/-!
# Discovery without the engine

Catalogs are made from files alone: no step of a manifest's reading or of a scan asks the engine for
anything, so neither does a command before its gateway is open (`calls_openGateway`).
-/

namespace DataShelf
set_option autoImplicit false

open Files (FileTree Path)

namespace Traced

variable {α β : Type}

/-- A fold of steps that ask for nothing asks for nothing. -/
theorem calls_foldlM {f : β → α → Traced β} (quiet : ∀ b a, (f b a).calls = []) (l : List α)
    (b : β) : (l.foldlM f b).calls = [] := by
  induction l generalizing b with
  | nil => rfl
  | cons a l ih => rw [List.foldlM_cons, calls_bind, quiet, ih, List.append_nil]

/-- A loop of quiet steps is quiet. -/
theorem calls_forM {f : α → Traced PUnit} (quiet : ∀ a, (f a).calls = []) (l : List α) :
    (forM l f).calls = [] := by
  induction l with
  | nil => rfl
  | cons a l ih => rw [List.forM_cons, calls_bind, quiet, ih, List.append_nil]

end Traced

/-! ### Files -/

section Files

variable (t : FileTree)

/-- A walk asks the engine for nothing. -/
@[simp] theorem calls_findFiles (p : Path) (accept : Path → Bool) :
    (t.findFiles p accept).calls = [] := by
  have below (node : Files.Node) :
      (forM (FileTree.closedBelow p node) fun q =>
        Traced.warn (FileTree.walkFailure p q .nameTooLong)).calls = [] :=
    Traced.calls_forM (fun q => Traced.calls_warn _) _
  unfold FileTree.findFiles
  split
  · simp
  · split <;> simp [below]
  · simp [below]

@[simp] theorem calls_subdirectories (p : Path) : (t.subdirectories p).calls = [] := by
  unfold FileTree.subdirectories
  split <;> simp

@[simp] theorem calls_loadSchema (p : Path) : (Catalog.loadSchema t p).calls = [] := by
  unfold Catalog.loadSchema
  split
  · simp
  · split <;> simp

end Files

namespace Catalog

variable (t : FileTree)

/-! ### Manifests -/

namespace Manifest

theorem calls_addTable (source : Source) (name : String) : (addTable t source name).calls = [] := by
  unfold addTable
  dsimp only
  split
  · simp
  · split
    · split <;> simp
    · simp

/-- Making the map of declared names asks the engine for nothing. -/
theorem calls_ofDeclared (root : Path) (declared : NameMap (List String)) :
    (ofDeclared t root declared).calls = [] := by
  apply Traced.calls_foldlM
  intro sources d
  have tables := Traced.calls_foldlM (calls_addTable t) d.2 (Source.of d.1 (root.joinText d.1))
  unfold addSource
  rw [Traced.calls_bind, tables, List.nil_append]
  split <;> simp

/-- Reading what a manifest declares asks the engine for nothing. -/
theorem calls_declaredTables? (manifest : Json) : (declaredTables? manifest).calls = [] := by
  unfold declaredTables?
  dsimp only
  split
  · split <;> simp
  · split
    · split <;> simp
    · simp

theorem calls_discover (root : Path) : (discover t root).calls = [] := by
  unfold discover
  dsimp only
  split
  · split
    · simp
    · rw [Traced.calls_bind, calls_declaredTables?, List.nil_append]
      split <;> simp [calls_ofDeclared]
  · simp

end Manifest

/-! ### Scans -/

namespace Scan

/-- Adding a script asks the engine for nothing. -/
theorem calls_addScript (sources : SourceMap) (script : Path) :
    (addScript sources script).calls = [] := by
  unfold addScript
  split
  · simp
  · dsimp only
    split <;> simp

theorem calls_table? (name : String) (directory : Path) : (table? t name directory).calls = [] := by
  unfold table?
  rw [Traced.calls_bind, calls_findFiles, List.nil_append]
  split
  · simp
  · rw [Traced.calls_bind, calls_findFiles, List.nil_append]
    split <;> simp

theorem calls_addTable (source : Source) (directory : Path) :
    (addTable t source directory).calls = [] := by
  unfold addTable
  split
  · simp
  · rw [Traced.calls_bind, calls_table?, List.nil_append]
    split <;> simp

theorem calls_addSource (sources : SourceMap) (directory : Path) :
    (addSource t sources directory).calls = [] := by
  have tables (name : String) (directories : List Path) :
      (directories.foldlM (addTable t) (Source.of name directory)).calls = [] :=
    Traced.calls_foldlM (calls_addTable t) _ _
  unfold addSource
  split
  · simp
  · split
    · simp
    · split
      · simp
      · rw [Traced.calls_bind, calls_subdirectories, Traced.calls_bind, tables]
        split <;> simp

theorem calls_discover (root : Path) : (discover t root).calls = [] := by
  unfold discover
  rw [Traced.calls_bind, calls_findFiles, List.nil_append]
  split
  · rw [ofDirectories, Traced.calls_bind, calls_subdirectories, List.nil_append]
    exact Traced.calls_foldlM (calls_addSource t) _ _
  · exact Traced.calls_foldlM calls_addScript _ _

end Scan

/-! ### Catalogs -/

theorem calls_discover (root : Path) : (discover t root).calls = [] := by
  have scan : (discover.scan t root).calls = [] := by
    unfold discover.scan
    rw [Traced.calls_bind, Scan.calls_discover, List.nil_append]
    split <;> simp
  unfold discover
  rw [Traced.calls_bind, Manifest.calls_discover, List.nil_append]
  split
  · split
    · exact scan
    · simp
  · exact scan

/-- Building a catalog asks the engine for nothing. -/
theorem calls_build (root : Path) : (build t root).calls = [] := by
  unfold build
  split
  · simp [calls_discover]
  · simp

end Catalog

namespace CommandLine

/-- Opening a gateway asks the engine for nothing. -/
theorem calls_openGateway (files : FileTree) (engine : Engine) (project data : Option Path) :
    (openGateway files engine project data).calls = [] := by
  have catalog (p : Catalog.Project) : (p.catalog files).calls = [] := by
    unfold Catalog.Project.catalog
    split
    · simp
    · exact Catalog.calls_build files _
  unfold openGateway
  split
  · simp
  · split
    · simp
    · rw [Traced.calls_bind, catalog, List.nil_append]
      split
      · simp
      · dsimp only
        split <;> simp

end CommandLine
end DataShelf
