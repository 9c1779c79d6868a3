import DataShelf.Catalog.Manifest
import DataShelf.Catalog.Scan

/-!
# Discovery

A manifest is tried before the directories; the first way that finds a source wins.
-/

namespace DataShelf.Catalog
set_option autoImplicit false

/-- How sources were found. -/
inductive Origin where
  | manifest
  | directoryScan
  deriving DecidableEq, Inhabited, Repr

def Origin.name : Origin → String
  | .manifest => "manifest"
  | .directoryScan => "directory scan"

/-- The sources below a root and how they were found. -/
def discover (t : Files.FileTree) (root : Files.Path) : Traced (Origin × SourceMap) := do
  match ← Manifest.discover t root with
  | some sources =>
    if sources.isEmpty then scan else return (.manifest, sources)
  | none => scan
where
  /-- What the directories hold. -/
  scan : Traced (Origin × SourceMap) := do
    let sources ← Scan.discover t root
    if sources.isEmpty then
      Traced.warnWith "No data sources discovered" [("root", root.display)]
      return (.directoryScan, .empty)
    else return (.directoryScan, sources)

end DataShelf.Catalog
