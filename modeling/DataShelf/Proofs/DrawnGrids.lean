import DataShelf.CommandLine.Grid
import Mathlib.Data.List.Forall2

/-!
# Grids as they are drawn

What the text of a grid shows is told by its lines alone (`Drawn`): a rule, the lines of the header, a
rule, the lines of each row, and a rule. On the lines of a row stand, between strokes, the lines of its
cells with blanks around them (`RowDrawn`), so a row is told by what is drawn for it, up to blanks. The
text of a grid whose rows are as long as its header is drawn in this way (`drawn_render`).
-/

namespace DataShelf.CommandLine
set_option autoImplicit false

/-- A field of a line has a text with a blank in front of it and blanks behind it. -/
def Padded (text field : String) : Prop :=
  ∃ blanks, field = " " ++ text ++ String.ofList (List.replicate (blanks + 1) ' ')

/-- The lines that are drawn for a row have, between strokes, a field for each cell with the line of the
cell at this height, and no line of a cell is left out. -/
structure RowDrawn (row lines : List String) : Prop where
  fields : ∀ (i : Nat) (line : String), lines[i]? = some line → ∃ fields : List String,
    line = "│" ++ "┆".intercalate fields ++ "│" ∧
    List.Forall₂ (fun cell field => Padded (((cell.splitOn "\n")[i]?).getD "") field) row fields
  whole : ∀ cell ∈ row, (cell.splitOn "\n").length ≤ lines.length

/-- The strokes that lines across a grid are made of. -/
def ruleStrokes : List Char := ['┌', '─', '┬', '┐', '╞', '═', '╪', '╡', '└', '┴', '┘']

/-- A line across the grid has nothing but strokes. -/
def IsRule (line : String) : Prop := ∀ c ∈ line.toList, c ∈ ruleStrokes

/-- The text that is drawn for a header and rows. -/
def Drawn (header : List String) (rows : List (List String)) (text : String) : Prop :=
  ∃ (top below bottom : String) (head : List String) (blocks : List (List String)),
    text = "\n".intercalate (top :: head ++ below :: blocks.flatten ++ [bottom]) ∧
    IsRule top ∧ IsRule below ∧ IsRule bottom ∧
    RowDrawn header head ∧ List.Forall₂ RowDrawn rows blocks

/-! ### Lines across -/

/-- The characters of joined texts are those of the separator and of the texts. -/
theorem mem_intercalate {c : Char} {separator : String} {texts : List String}
    (member : c ∈ (separator.intercalate texts).toList) :
    c ∈ separator.toList ∨ ∃ text ∈ texts, c ∈ text.toList := by
  induction texts with
  | nil => simp at member
  | cons text texts ih =>
    cases texts with
    | nil => exact .inr ⟨text, by simp, by simpa using member⟩
    | cons next texts =>
      rw [String.intercalate_cons_cons, String.toList_append, String.toList_append,
        List.append_assoc] at member
      rcases List.mem_append.1 member with here | behind
      · exact .inr ⟨text, by simp, here⟩
      rcases List.mem_append.1 behind with between | later
      · exact .inl between
      rcases ih later with between | ⟨text', inside, here⟩
      · exact .inl between
      · exact .inr ⟨text', List.mem_cons_of_mem _ inside, here⟩

/-- Pushing a character repeatedly puts so many copies of it behind. -/
theorem pushn_eq (s : String) (c : Char) (n : Nat) :
    s.pushn c n = s ++ String.ofList (List.replicate n c) := by
  induction n with
  | zero => simp [String.pushn, Nat.repeat]
  | succ n ih =>
    have next : s.pushn c (n + 1) = (s.pushn c n).push c := rfl
    rw [next, ih, ← String.toList_inj]
    simp [List.replicate_succ', List.append_assoc]

/-- A line across is made of strokes, whatever the widths of the columns are. -/
theorem isRule_rule {strokes : Strokes} {stroke : Char} (left : IsRule strokes.left)
    (between : IsRule strokes.between) (right : IsRule strokes.right)
    (across : stroke ∈ ruleStrokes) (widths : List Nat) :
    IsRule (strokes.rule stroke widths) := by
  intro c member
  rw [Strokes.rule, Strokes.draw, String.toList_append, String.toList_append, List.append_assoc] at member
  rcases List.mem_append.1 member with here | behind
  · exact left c here
  rcases List.mem_append.1 behind with inside | here
  · rcases mem_intercalate inside with here | ⟨text, drawn, here⟩
    · exact between c here
    · obtain ⟨w, -, rfl⟩ := List.mem_map.1 drawn
      rw [pushn_eq, String.empty_append, String.toList_ofList] at here
      rw [List.eq_of_mem_replicate here]
      exact across
  · exact right c here

/-! ### Rows -/

theorem foldl_max_le_iff (values : List Nat) (start bound : Nat) :
    values.foldl max start ≤ bound ↔ start ≤ bound ∧ ∀ n ∈ values, n ≤ bound := by
  induction values generalizing start with
  | nil => simp
  | cons n values ih => rw [List.foldl_cons, ih, Nat.max_le, List.forall_mem_cons, and_assoc]

theorem padded_inColumn (width : Nat) (text : String) : Padded text (inColumn width text) :=
  ⟨width - Text.displayWidth text, pushn_eq _ _ _⟩

theorem le_foldl_max {n : Nat} {values : List Nat} (member : n ∈ values) (start : Nat) :
    n ≤ values.foldl max start :=
  ((foldl_max_le_iff values start _).1 (Nat.le_refl _)).2 n member

/-- With a width for each cell every cell has a field. -/
theorem padded_fields {widths : List Nat} {row : List String} (even : widths.length = row.length)
    (i : Nat) : List.Forall₂ (fun cell field => Padded (((cell.splitOn "\n")[i]?).getD "") field) row
      (widths.zipWith (fun w cell => inColumn w (cell[i]?.getD "")) (row.map cellLines)) := by
  rw [List.forall₂_iff_get]
  refine ⟨by simp [even], fun k inside inside' => ?_⟩
  simp only [List.get_eq_getElem, List.getElem_zipWith, List.getElem_map]
  exact padded_inColumn _ _

/-- A row is drawn if there is a width for each of its cells. -/
theorem rowDrawn_rowLines {widths : List Nat} {row : List String}
    (even : widths.length = row.length) : RowDrawn row (Grid.rowLines widths row) := by
  constructor
  · intro i line here
    rw [Grid.rowLines, List.getElem?_map] at here
    obtain ⟨k, counted, rfl⟩ := Option.map_eq_some_iff.1 here
    obtain ⟨below, rfl⟩ := List.getElem?_eq_some_iff.1 counted
    rw [List.getElem_range]
    exact ⟨_, rfl, padded_fields even i⟩
  · intro cell member
    rw [Grid.rowLines, List.length_map, List.length_range]
    apply le_foldl_max
    rw [List.map_map]
    exact List.mem_map.2 ⟨cell, member, rfl⟩

/-! ### The whole grid -/

section Even

variable {g : Grid} (even : ∀ row ∈ g.rows, row.length = g.header.length)

include even

/-- A grid whose rows are as long as its header has a column for each cell of that. -/
theorem columnCount_of_even : g.columnCount = g.header.length := by
  apply Nat.le_antisymm
  · rw [Grid.columnCount, foldl_max_le_iff]
    refine ⟨Nat.le_refl _, fun n member => ?_⟩
    obtain ⟨row, inside, rfl⟩ := List.mem_map.1 member
    exact Nat.le_of_eq (even row inside)
  · exact ((foldl_max_le_iff _ _ _).1 (Nat.le_refl g.columnCount)).1

/-- Where the rows are as long as the header, none has to be filled. -/
theorem filled_of_even {row : List String} (member : row ∈ g.header :: g.rows) :
    Grid.filled g.columnCount row = row := by
  have full : row.length = g.header.length := by
    rcases List.mem_cons.1 member with rfl | inside
    · rfl
    · exact even row inside
  rw [Grid.filled, columnCount_of_even even, full]
  simp

theorem allRows_of_even : g.allRows = g.header :: g.rows := by
  have same : ∀ row ∈ g.header :: g.rows, Grid.filled g.columnCount row = id row :=
    fun row member => filled_of_even even member
  rw [Grid.allRows, List.map_congr_left same, List.map_id]

/-- Where the rows are as long as the header, each column of that has a width. -/
theorem length_widths : g.widths.length = g.header.length := by
  have kept (rows : List (List String)) (widths : List Nat)
      (full : ∀ row ∈ rows, row.length = widths.length) :
      (rows.foldl (fun ws row => ws.zipWith max (row.map cellWidth)) widths).length =
        widths.length := by
    induction rows generalizing widths with
    | nil => rfl
    | cons row rows ih =>
      obtain ⟨here, others⟩ := List.forall_mem_cons.1 full
      have next : (widths.zipWith max (row.map cellWidth)).length = widths.length := by
        simp [here]
      rw [List.foldl_cons, ih _ (by rw [next]; exact others), next]
  have start : (List.replicate g.columnCount 1).length = g.header.length := by
    rw [List.length_replicate, columnCount_of_even even]
  rw [Grid.widths, allRows_of_even even, kept _ _ _, start]
  rw [start]
  exact List.forall_mem_cons.2 ⟨rfl, even⟩

/-- The text of a grid is drawn for its header and rows. -/
theorem drawn_render : Drawn g.header g.rows g.render := by
  have width := length_widths even
  have lines : g.rows.flatMap (fun row => Grid.rowLines g.widths (Grid.filled g.columnCount row)) =
      (g.rows.map (Grid.rowLines g.widths)).flatten := by
    rw [List.flatMap_def]
    congr 1
    refine List.map_congr_left fun row member => ?_
    rw [filled_of_even even (List.mem_cons_of_mem _ member)]
  have text : g.render = "\n".intercalate
      (Strokes.rule ⟨"┌", "┬", "┐"⟩ '─' g.widths :: Grid.rowLines g.widths g.header ++
        Strokes.rule ⟨"╞", "╪", "╡"⟩ '═' g.widths ::
          (g.rows.map (Grid.rowLines g.widths)).flatten ++
            [Strokes.rule ⟨"└", "┴", "┘"⟩ '─' g.widths]) := by
    rw [← lines, Grid.render, filled_of_even even List.mem_cons_self]
  refine ⟨_, _, _, _, _, text, ?_, ?_, ?_, rowDrawn_rowLines width, ?_⟩
  · apply isRule_rule <;> simp [IsRule, ruleStrokes]
  · apply isRule_rule <;> simp [IsRule, ruleStrokes]
  · apply isRule_rule <;> simp [IsRule, ruleStrokes]
  · rw [List.forall₂_map_right_iff, List.forall₂_same]
    intro row member
    exact rowDrawn_rowLines (width.trans (even row member).symm)

end Even

end DataShelf.CommandLine
