import DataShelf.CommandLine.Run
import DataShelf.Proofs.PreviewViews

/-!
# Views as a listing shows them

The grid of tables shows the name of each view in quotes, with nothing done to quotes inside the
name. What stands between two quotes is one token exactly if its quotes are doubled
(`Sql.token?_between_iff`), and the name of a view has none to double exactly if neither its source
nor its table has one (`mem_viewName_iff`). So what is shown is the identifier that the view was
registered under just for these names (`view_cells_registered_iff`).
-/

namespace DataShelf.Sql
set_option autoImplicit false

/-- What stands behind an opening quote is the value with its quotes doubled, up to the closing
one. -/
theorem quotes_iff {quote : Char} {cs value rest : List Char} :
    Quotes quote cs value rest ↔
      cs = double quote value ++ quote :: rest ∧ rest.head? ≠ some quote := by
  constructor
  · intro rule
    induction rule with
    | close free => exact ⟨rfl, free⟩
    | doubled _ ih =>
      obtain ⟨rfl, free⟩ := ih
      exact ⟨by simp [double], free⟩
    | plain other _ ih =>
      obtain ⟨rfl, free⟩ := ih
      exact ⟨by simp [double, other], free⟩
  · rintro ⟨rfl, free⟩
    exact quotes_of_unquoteTail? (unquoteTail?_double quote value rest free)

/-- A text between quotes is one token exactly if its own quotes are doubled. -/
theorem token?_between_iff {quote : Char} {inside : List Char} {value : String} :
    token? quote (String.ofList (quote :: (inside ++ [quote]))) = some (value, "") ↔
      inside = double quote value.toList := by
  have closes (v : List Char) :
      unquote? quote (quote :: (inside ++ [quote])) = some (v, []) ↔ inside = double quote v := by
    rw [unquote?_eq_some_iff]
    simp [quotes_iff]
  rw [token?, String.toList_ofList, Option.map_eq_some_iff, ← closes]
  constructor
  · rintro ⟨⟨v, rest⟩, read, same⟩
    obtain ⟨rfl, behind⟩ := Prod.mk.inj same
    obtain rfl : rest = [] := by simpa using congrArg String.toList behind
    simpa using read
  · intro read
    exact ⟨(value.toList, []), read, by simp⟩

/-- Doubling changes nothing where there is nothing to double. -/
theorem double_eq_self_iff {quote : Char} {cs : List Char} : double quote cs = cs ↔ quote ∉ cs := by
  have grows (cs : List Char) : cs.length ≤ (double quote cs).length := by
    induction cs with
    | nil => exact Nat.le_refl _
    | cons c cs ih =>
      unfold double
      split <;> simp only [List.length_cons] <;> omega
  induction cs with
  | nil => simp [double]
  | cons c cs ih =>
    by_cases same : c = quote
    · subst same
      refine iff_of_false (fun equal => ?_) (by simp)
      have length := congrArg List.length equal
      have longer := grows cs
      simp only [double, if_true, List.length_cons] at length
      omega
    · simp [double, same, ih, Ne.symm same]

/-- The quoted identifier behind fixed words of a statement, as it is spelled there. -/
def spelledBehind? (words statement : String) : Option String :=
  (statement.toList.dropPrefix? words.toList).bind fun behind =>
    (unquote? '"' behind).map fun r => String.ofList (behind.take (behind.length - r.2.length))

/-- An identifier behind words is spelled there as it was written. -/
theorem spelledBehind?_identifier (words name rest : String) (free : rest.toList.head? ≠ some '"') :
    spelledBehind? words (words ++ identifier name ++ rest) = some (identifier name) := by
  have behind : (words ++ identifier name ++ rest).toList.dropPrefix? words.toList =
      some (enclose '"' name.toList ++ rest.toList) := by
    rw [String.append_assoc, String.toList_append]
    have cut := List.dropPrefix?_append_of_beq (identifier name ++ rest).toList
      (beq_self_eq_true words.toList)
    rw [cut, String.toList_append, identifier, String.toList_ofList]
  rw [spelledBehind?, behind, Option.bind_some, unquote?_enclose _ _ _ free]
  simp [identifier]

end DataShelf.Sql

namespace DataShelf.CommandLine
set_option autoImplicit false

open Catalog (Source Table viewName)
open Catalog.Manifest (Declares Shaped dataPath exists_build fileName isFile_withManifest
  read_withManifest withManifest withManifest_directory)
open Files (FileTree)
open Query (createView viewStatement)

/-! ### Rows of the grid -/

/-- The cell that a row of the grid of tables has for the name of a view. -/
def viewCell (source table : String) : String := "\"" ++ viewName source table ++ "\""

/-- A row shows a table: its two names, the cell for its view, and two more. -/
inductive Shows (e : Source × Table) : List String → Prop where
  | row (columns file : String) :
      Shows e [e.1.name, e.2.name, viewCell e.1.name e.2.name, columns, file]

/-- The rows of the grid show the tables of the catalog, in their order. -/
theorem rows_show_tables (c : Catalog) : List.Forall₂ Shows c.tables (tablesGrid c).rows :=
  List.forall₂_map_right_iff.2 (List.forall₂_same.2 fun _ _ => .row _ _)

/-- Each table has a row in the grid. -/
theorem exists_row {c : Catalog} {e : Source × Table} (member : e ∈ c.tables) :
    ∃ row ∈ (tablesGrid c).rows, Shows e row :=
  ⟨_, List.mem_map_of_mem member, .row _ _⟩

theorem toList_viewCell (source table : String) :
    (viewCell source table).toList = '"' :: ((viewName source table).toList ++ ['"']) := by
  simp [viewCell]

/-- A quote is in the name of a view exactly if it is in one of the names. -/
theorem mem_viewName_iff {source table : String} :
    '"' ∈ (viewName source table).toList ↔ '"' ∈ source.toList ∨ '"' ∈ table.toList := by
  simp [viewName]

/-- A cell is the identifier of the view it names exactly if the name has no quote. -/
theorem viewCell_eq_identifier_iff {source table : String} :
    viewCell source table = Sql.identifier (viewName source table) ↔
      '"' ∉ source.toList ∧ '"' ∉ table.toList := by
  rw [← not_or, ← mem_viewName_iff, ← Sql.double_eq_self_iff, ← String.toList_inj, toList_viewCell]
  simp [Sql.identifier, Sql.enclose, eq_comm]

/-- A cell is one token exactly for the name that gives the name of the view when its quotes are
doubled. -/
theorem token?_viewCell_iff {source table denoted : String} :
    Sql.token? '"' (viewCell source table) = some (denoted, "") ↔
      (viewName source table).toList = Sql.double '"' denoted.toList := by
  have spelled : viewCell source table =
      String.ofList ('"' :: ((viewName source table).toList ++ ['"'])) := by
    rw [← toList_viewCell, String.ofList_toList]
  rw [spelled, Sql.token?_between_iff]

/-- A statement that is built for the view of a table spells its name as an identifier. -/
theorem spelled_of_viewStatement {t : FileTree} {source sql : String} {table : Table}
    (built : viewStatement t source table = .ok sql) :
    Sql.spelledBehind? "CREATE VIEW " sql = some (Sql.identifier (viewName source table.name)) := by
  rcases Query.viewStatement_eq_ok_iff.1 built with ⟨-, rfl⟩ | ⟨-, script, -, -, rfl⟩
  · exact Sql.spelledBehind?_identifier _ _ _ (by simp)
  · exact Sql.spelledBehind?_identifier _ _ _ (by simp)

/-- **View cells.** The grid of tables has a row for each table of a catalog. The cell for its view is
one token that denotes the view, and it is the identifier that the statement for the view spells,
exactly if there is no quote in the names of the source and the table. In any case the cell is one
token only for the name that gives that of the view when its quotes are doubled. -/
theorem view_cells_registered_iff (c : Catalog) :
    (tablesGrid c).header = ["SOURCE", "TABLE", "VIEW", "COLUMNS", "FILE"] ∧
    List.Forall₂ (fun (e : Source × Table) row =>
      row[0]? = some e.1.name ∧ row[1]? = some e.2.name ∧ ∃ cell, row[2]? = some cell ∧
      let bare := '"' ∉ e.1.name.toList ∧ '"' ∉ e.2.name.toList
      (Sql.token? '"' cell = some (viewName e.1.name e.2.name, "") ↔ bare) ∧
      (∀ t sql, viewStatement t e.1.name e.2 = .ok sql →
        (Sql.spelledBehind? "CREATE VIEW " sql = some cell ↔ bare)) ∧
      ∀ denoted, Sql.token? '"' cell = some (denoted, "") ↔
        (viewName e.1.name e.2.name).toList = Sql.double '"' denoted.toList)
      c.tables (tablesGrid c).rows := by
  refine ⟨rfl, (rows_show_tables c).imp ?_⟩
  rintro e _ ⟨columns, file⟩
  refine ⟨rfl, rfl, _, rfl, ?_, fun t sql built => ?_, fun denoted => token?_viewCell_iff⟩
  · rw [token?_viewCell_iff, eq_comm, Sql.double_eq_self_iff, mem_viewName_iff, not_or]
  · rw [spelled_of_viewStatement built, Option.some.injEq, eq_comm, viewCell_eq_identifier_iff]

/-! ### A name with a quote -/

/-- The name of a source with a quote in it. -/
def inches : String := "6\" pipes"

/-- A manifest that declares a table of orders in this source. -/
def inchesText : String :=
  "\x7b\"sources\": \x7b\"6\\\" pipes\": \x7b\"tables\": \x7b\"orders\": \x7b\x7d\x7d\x7d\x7d\x7d"

/-- What the manifest says. -/
def inchesManifest : Json := .object [("sources", .object [(inches, Query.ordersSource)])]

set_option maxRecDepth 40000 in
theorem read_inchesText : Json.read inchesText = .ok inchesManifest := by
  rfl

/-- The tree of the manifest and of the source. -/
def inchesTree : FileTree := withManifest inchesText [Query.ordersBelow inches]

theorem inchesTree_proper : inchesTree.Proper := by
  apply FileTree.proper_of_names
  intro n member
  have all : ∀ n ∈ [Files.Name.ofString "manifest.json", .ofString inches, .ofString "orders",
      .ofString "orders.parquet"], n.Proper := by decide
  exact all n member

theorem inchesManifest_shaped : Shaped inchesManifest := by
  refine .sources rfl rfl fun e member => ?_
  obtain rfl := List.mem_singleton.1 member
  exact ⟨_, rfl, .inr ⟨_, rfl⟩⟩

/-- The manifest declares the table of orders. -/
theorem inchesManifest_declares : Declares inchesManifest inches "orders" :=
  .sources rfl rfl rfl rfl rfl

theorem inchesTree_file : inchesTree.isFile (dataPath Catalog.here inches "orders") := by
  have name : "orders" ++ "." ++ Catalog.parquetExtension = "orders.parquet" := by decide
  have other : Files.Name.ofString "manifest.json" ≠ .ofString inches := by decide
  have down : inchesTree.root.descend
      [.ofString inches, .ofString "orders", .ofString "orders.parquet"] = some (.file []) := by
    simp [inchesTree, withManifest, Query.ordersBelow, Files.Node.named?, fileName, other]
  rw [Catalog.Manifest.dataPath_of_parts (by decide) (by decide), name]
  exact isFile_withManifest inchesTree_proper down (by decide)

/-- The cell for the view of a table in such a source ends early when it is read as an identifier, and
it is not the identifier that the statement for the view spells. -/
theorem quoted_name_breaks_cell :
    ∃ c e row sql, (Catalog.build inchesTree Catalog.here).value = .ok c ∧ e ∈ c.tables ∧
      e.1.name = inches ∧ e.2.name = "orders" ∧ Shows e row ∧ row ∈ (tablesGrid c).rows ∧
      row[2]? = some "\"6\" pipes_orders\"" ∧
      Sql.token? '"' "\"6\" pipes_orders\"" = some ("6", " pipes_orders\"") ∧
      viewStatement inchesTree e.1.name e.2 = .ok sql ∧
      Sql.spelledBehind? "CREATE VIEW " sql = some "\"6\"\" pipes_orders\"" := by
  obtain ⟨c, built, declared, listed⟩ := exists_build withManifest_directory
    (read_withManifest inchesTree_proper read_inchesText) inchesManifest_shaped
    inchesManifest_declares inchesTree_file
  obtain ⟨e, member, source, table⟩ := listed inches "orders" inchesManifest_declares inchesTree_file
  obtain ⟨row, there, shows⟩ := exists_row member
  have cell : row[2]? = some (viewCell e.1.name e.2.name) := by
    cases shows
    rfl
  have kind : e.2.kind = .parquet := by
    rw [(declared e member).2.2, Catalog.Manifest.declaredTable]
    split <;> rfl
  refine ⟨c, e, row, _, built, member, source, table, shows, there, ?_, by decide,
    Query.viewStatement_eq_ok_iff.2 (.inl ⟨kind, rfl⟩), ?_⟩
  · rw [cell, source, table]
    rfl
  · rw [Sql.spelledBehind?_identifier _ _ _ (by simp), source, table]
    rfl

end DataShelf.CommandLine
