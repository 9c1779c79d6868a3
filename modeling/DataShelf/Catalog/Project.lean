import DataShelf.Catalog.Basic

/-!
# Projects

A project says where its data lies: in a directory that was named for it, else where its pages are
rendered, else among its sources.
-/

namespace DataShelf.Catalog
set_option autoImplicit false

open Files (Path FileTree)

/-- A directory of a project, and the data directory that was named for it if there is one. -/
structure Project where
  path : Path
  dataPath : Option Path
  deriving DecidableEq, Inhabited, Repr

namespace Project

/-- The names that lead to the rendered data. -/
def renderedWay : List String := [".evidence", "template", "static", "data"]

/-- The name of the directory of sources. -/
def sourcesName : String := "sources"

/-- A project whose directory is there. -/
def open? (t : FileTree) (path : Path) (dataPath : Option Path) : Except CatalogError Project :=
  if t.exists path then .ok ⟨path, dataPath⟩
  else .error (.configuration ("Project directory not found: " ++ path.display))

/-- Where the rendered data of a project lies. -/
def renderedData (p : Project) : Path := renderedWay.foldl Path.joinText p.path

/-- The directory that holds the data of a project. -/
def dataRoot (t : FileTree) (p : Project) : Except CatalogError Path :=
  match p.dataPath with
  | some named =>
    if t.exists named then .ok named
    else .error (.configuration ("Data directory not found: " ++ named.display ++
      ". Please provide a valid data directory."))
  | none =>
    let sources := p.path.joinText sourcesName
    if t.exists p.renderedData then .ok p.renderedData
    else if t.exists sources then .ok sources
    else .error (.configuration ("Evidence data directory not found: " ++ p.renderedData.display ++
      ". Please run 'npm run sources' in your Evidence project first, or explicitly provide a " ++
      "data directory with --data-path."))

/-- The catalog of a project's data. -/
def catalog (t : FileTree) (p : Project) : Traced (Except CatalogError Catalog) :=
  match p.dataRoot t with
  | .error e => return .error e
  | .ok root => Catalog.build t root

end Project
end DataShelf.Catalog
