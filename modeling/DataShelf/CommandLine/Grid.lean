import DataShelf.Json.Writer
import DataShelf.Text.Width

/-!
# Grids

A header and rows of cells, drawn with lines around them. A cell may have several lines; a column
is as wide as its widest line, and cells that a row lacks are blank.
-/

namespace DataShelf.CommandLine
set_option autoImplicit false

/-- A header and rows of cells. -/
structure Grid where
  header : List String
  rows : List (List String)
  deriving DecidableEq, Repr

/-- The text of a cell for a JSON value: nothing for null, and texts without quotes. -/
def cellText : Json → String
  | .null => ""
  | .string s => s
  | j => Json.compact j

/-- The lines of a cell. -/
def cellLines (cell : String) : List String := cell.splitOn "\n"

/-- The columns that a cell takes. -/
def cellWidth (cell : String) : Nat := ((cellLines cell).map Text.displayWidth).foldl max 1

/-- The strokes that make up a line of a grid. -/
structure Strokes where
  left : String
  between : String
  right : String
  deriving DecidableEq, Repr

/-- A line of a grid from the texts in its columns. -/
def Strokes.draw (s : Strokes) (texts : List String) : String :=
  s.left ++ s.between.intercalate texts ++ s.right

/-- A line across the grid, between columns of given widths and with a blank at each side. -/
def Strokes.rule (s : Strokes) (stroke : Char) (widths : List Nat) : String :=
  s.draw (widths.map fun w => "".pushn stroke (w + 2))

/-- A text with a blank at each side, filled with blanks up to a width. -/
def inColumn (width : Nat) (text : String) : String :=
  (" " ++ text).pushn ' ' (width - Text.displayWidth text + 1)

namespace Grid

/-- The number of columns. -/
def columnCount (g : Grid) : Nat := (g.rows.map List.length).foldl max g.header.length

/-- The cells of a row, blank where it has none. -/
def filled (count : Nat) (row : List String) : List String :=
  row ++ List.replicate (count - row.length) ""

/-- The header and the rows, all of the same length. -/
def allRows (g : Grid) : List (List String) := (g.header :: g.rows).map (filled g.columnCount)

/-- The widths of the columns. -/
def widths (g : Grid) : List Nat :=
  g.allRows.foldl (fun ws row => ws.zipWith max (row.map cellWidth))
    (List.replicate g.columnCount 1)

/-- The lines of a row. -/
def rowLines (widths : List Nat) (row : List String) : List String :=
  let cells := row.map cellLines
  let height := (cells.map List.length).foldl max 0
  (List.range height).map fun i =>
    Strokes.draw ⟨"│", "┆", "│"⟩
      (widths.zipWith (fun w cell => inColumn w (cell[i]?.getD "")) cells)

/-- The grid, without a line feed at its end. -/
def render (g : Grid) : String :=
  let ws := g.widths
  let top := Strokes.rule ⟨"┌", "┬", "┐"⟩ '─' ws
  let below := Strokes.rule ⟨"╞", "╪", "╡"⟩ '═' ws
  let bottom := Strokes.rule ⟨"└", "┴", "┘"⟩ '─' ws
  "\n".intercalate <|
    top :: rowLines ws (filled g.columnCount g.header) ++
      below :: g.rows.flatMap (fun row => rowLines ws (filled g.columnCount row)) ++ [bottom]

end Grid
end DataShelf.CommandLine
