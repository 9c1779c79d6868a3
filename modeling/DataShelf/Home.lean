import DataShelf.Files.Path

/-!
# Where the program keeps its own files
-/

namespace DataShelf.Home
set_option autoImplicit false

open Files (Path)

/-- The program's directory: the one that was named for it, else one in the user's home. -/
def directory (userHome : Path) (named : Option Path) : Path :=
  named.getD (userHome.joinText ".evidence_mcp")

/-- The directory of the logs in the program's directory. -/
def logs (home : Path) : Path := home.joinText "logs"

end DataShelf.Home
