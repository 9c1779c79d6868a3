import DataShelf.Proofs.DrawnGrids
import DataShelf.Proofs.Lookups
import DataShelf.Proofs.QueryWays

/-!
# What the listings show

The tools, the resources and the command that list sources and tables all show the summaries of the
catalog: the same names in the same order (`Shows`, `shows_summaries`). A table that they do not show
is not there for a lookup either, and the tool and the address that are asked for it say so without
asking the engine (`callTool_missed`, `read_missed`). So what is listed and what is found agree
(`listings_and_lookups_agree`).
-/

namespace DataShelf.Server
set_option autoImplicit false

open Catalog (SourceSummary TableRef)
open CommandLine (Drawn Invocation perform sourcesText tablesGrid)
open Query (Gateway Missed)
open ResourceUri (ofSource ofTable parse?)
open Wire (ResourceContents ToolCall ToolResult)

/-! ### Tables that are not there -/

section Missed

variable (s : Server) {source table message : String}

/-- The tool that describes a table says that it is not there, and asks the engine for nothing. -/
theorem callTool_missed (missed : Missed s.gateway source table message) {call : ToolCall}
    (named : call.name = "evidence-describe-table")
    (outer : call.arguments.field? "source" = some (.string source))
    (inner : call.arguments.field? "table" = some (.string table)) :
    (s.callTool call).calls = [] ∧
    (s.callTool call).value = .ok ⟨[⟨"Error: " ++ message⟩], true⟩ := by
  have tool : Tool.ofName? call.name = some .describeTable := ofName?_eq_some_iff.2 named.symm
  have executed : Tool.describeTable.execute s.gateway call.arguments =
      pure (.error (.notFound message)) := by
    rw [execute_describeTable outer inner, missed.description]
    rfl
  constructor
  · rw [calls_callTool s tool, executed, Traced.calls_pure]
  · exact callTool_of_error s tool (by rw [executed, Traced.value_pure]) rfl

/-- So does the address of the table. -/
theorem read_missed (missed : Missed s.gateway source table message) {uri : String}
    (leads : parse? uri = some (.table source table)) (limit : Nat) :
    (Resources.read s.gateway limit uri).calls = [] ∧
    (Resources.read s.gateway limit uri).value =
      ⟨uri, "text/plain", "Error querying table: " ++ message⟩ := by
  simp only [Resources.read, leads, missed.preview limit]
  exact ⟨rfl, rfl⟩

end Missed

/-! ### What is shown -/

section Shown

variable (s : Server)

/-- The text of a list of summaries gives them back. -/
theorem read_summaries (summaries : List SourceSummary) :
    Json.read (Json.pretty (.array (summaries.map SourceSummary.toJson))) =
      .ok (.array (summaries.map SourceSummary.toJson)) := by
  apply Json.read_pretty
  simp [Json.nestings, SourceSummary.toJson, Json.texts]

theorem read_names (names : List String) :
    Json.read (Json.pretty (Json.texts names)) = .ok (Json.texts names) := by
  apply Json.read_pretty
  simp [Json.nestings, Json.texts]

theorem callTool_listSources {call : ToolCall} (named : call.name = "evidence-list-sources") :
    (s.callTool call).value = .ok (fitted s.config.maxResponseBytes
      (Json.pretty (.array (s.gateway.catalog.summaries.map SourceSummary.toJson)))) := by
  have tool : Tool.ofName? call.name = some .listSources := ofName?_eq_some_iff.2 named.symm
  exact callTool_of_ok s tool rfl

/-- The tool that lists tables answers with the names of the tables, within the budget. -/
theorem callTool_listTables {call : ToolCall} {source : String} {names : List String}
    (named : call.name = "evidence-list-tables")
    (given : call.arguments.field? "source" = some (.string source))
    (found : s.gateway.catalog.sourceTables source = .ok names) :
    (s.callTool call).value =
      .ok (fitted s.config.maxResponseBytes (Json.pretty (Json.texts names))) := by
  have tool : Tool.ofName? call.name = some .listTables := ofName?_eq_some_iff.2 named.symm
  apply callTool_of_ok s tool
  rw [execute_listTables given, found]
  rfl

/-- At an address of a source stand its name and the names of its tables. -/
theorem read_summary (keyed : s.gateway.catalog.WellKeyed) {summary : SourceSummary}
    (member : summary ∈ s.gateway.catalog.summaries) {uri : String}
    (leads : parse? uri = some (.source summary.name)) (limit : Nat) :
    ∃ text, (Resources.read s.gateway limit uri).value = ⟨uri, "application/json", text⟩ ∧
      Json.read text = .ok (.object [("source", .string summary.name),
        ("tables", Json.texts summary.tables), ("path", .string summary.path)]) := by
  obtain ⟨source, listed, rfl⟩ := List.mem_map.1 member
  have named : (SourceSummary.ofSource source).name = source.name := rfl
  have found : s.gateway.catalog.source source.name = .ok source :=
    Catalog.source_eq_ok_iff.2 (keyed.sources.get? listed)
  refine ⟨Json.pretty (sourceContents source), ?_, read_sourceContents source⟩
  simp only [Resources.read, leads, named, Resources.readSource, found]
  rfl

theorem isEmpty_eq_false_iff {c : Catalog} : c.isEmpty = false ↔ c.summaries ≠ [] := by
  simp [Catalog.isEmpty, Catalog.NameMap.isEmpty, Catalog.summaries, Catalog.NameMap.values]

/-- The command that lists sources draws a grid with a row for each table. -/
theorem sourcesText_drawn {c : Catalog} (filled : c.isEmpty = false) :
    ∃ text, Drawn ["SOURCE", "TABLE", "VIEW", "COLUMNS", "FILE"] (tablesGrid c).rows text ∧
      sourcesText c = text ++ "\n" ++ toString c.summaries.length ++ " sources, " ++
        toString c.tableCount ++ " tables (discovered via " ++ c.origin.name ++ ")\n" := by
  have even : ∀ row ∈ (tablesGrid c).rows, row.length = (tablesGrid c).header.length := by
    intro row member
    obtain ⟨entry, -, rfl⟩ := List.mem_map.1 member
    rfl
  refine ⟨(tablesGrid c).render, CommandLine.drawn_render even, ?_⟩
  rw [sourcesText, filled]
  rfl

/-- The object that tells of a source: its name, the names of its tables and its path. -/
def shownSource (summary : SourceSummary) : Json := .object [
  ("name", .string summary.name), ("tables", .array (summary.tables.map .string)),
  ("path", .string summary.path)]

/-- What is shown of sources and their tables, wherever they are listed. -/
structure Shows (s : Server) (summaries : List SourceSummary) : Prop where
  /-- The tables, laid flat. -/
  tables : s.gateway.listTables = summaries.flatMap fun summary =>
    summary.tables.map fun table => ⟨summary.name, table⟩
  /-- The tool that lists sources. -/
  sourcesTool : ∃ text, Json.read text = .ok (.array (summaries.map shownSource)) ∧
    ∀ call : ToolCall, call.name = "evidence-list-sources" →
      (s.callTool call).value = .ok (fitted s.config.maxResponseBytes text)
  /-- The tool that lists the tables of a source. -/
  tablesTool : ∀ summary ∈ summaries, ∃ text,
    Json.read text = .ok (.array (summary.tables.map .string)) ∧
    ∀ call : ToolCall, call.name = "evidence-list-tables" →
      call.arguments.field? "source" = some (.string summary.name) →
      (s.callTool call).value = .ok (fitted s.config.maxResponseBytes text)
  /-- The address of a source. -/
  addresses : ∀ summary ∈ summaries, ∀ uri, parse? uri = some (.source summary.name) →
    ∃ text, (Resources.read s.gateway s.config.resultLimit uri).value =
        ⟨uri, "application/json", text⟩ ∧
      Json.read text = .ok (.object [("source", .string summary.name),
        ("tables", .array (summary.tables.map .string)), ("path", .string summary.path)])
  /-- The list of resources. -/
  resources : ∀ params, (s.answer .resourcesList params).value = .ok (.object [("resources",
    .array (summaries.map fun summary => .object [
      ("uri", .string (ofSource summary.name)), ("name", .string ("evidence-" ++ summary.name)),
      ("description", .string ("Evidence source '" ++ summary.name ++ "' (" ++
        toString summary.tables.length ++ " tables)")),
      ("mimeType", .string "application/json")]))])
  /-- The command that lists sources, as JSON. -/
  json : ∃ text, Json.read text = .ok (.array (summaries.map shownSource)) ∧
    ∀ i : Invocation, i.task = .sources true → ∀ input,
      (perform i input s.gateway).value = .done (text ++ "\n")
  /-- The command that lists sources, as a grid: it has a row for each table, which begins with the two
  names. -/
  grid : summaries ≠ [] → ∃ (rows : List (List String)) (text : String),
    Drawn ["SOURCE", "TABLE", "VIEW", "COLUMNS", "FILE"] rows text ∧
    rows.map (·.take 2) = (summaries.flatMap fun summary =>
      summary.tables.map fun table => [summary.name, table]) ∧
    ∀ i : Invocation, i.task = .sources false → ∀ input,
      (perform i input s.gateway).value =
        .done (text ++ "\n" ++ toString summaries.length ++ " sources, " ++
          toString s.gateway.listTables.length ++ " tables (discovered via " ++
          s.gateway.catalog.origin.name ++ ")\n")
  /-- The command that lists sources, where there is none. -/
  nothing : summaries = [] → ∀ i : Invocation, i.task = .sources false → ∀ input,
    (perform i input s.gateway).value =
      .done ("No data sources found in " ++ s.gateway.catalog.root.display ++ "\n")

theorem length_listTables : s.gateway.listTables.length = s.gateway.catalog.tableCount := by
  rw [← Catalog.length_tables, Gateway.listTables, Catalog.tableRefs, List.length_map]

/-- Every listing shows the summaries of the catalog. -/
theorem shows_summaries (keyed : s.gateway.catalog.WellKeyed) :
    Shows s s.gateway.catalog.summaries where
  tables := Catalog.tableRefs_eq keyed
  sourcesTool := ⟨_, read_summaries _, fun call named => callTool_listSources s named⟩
  tablesTool := by
    intro summary member
    refine ⟨_, read_names summary.tables, fun call named given => ?_⟩
    obtain ⟨source, listed, rfl⟩ := List.mem_map.1 member
    apply callTool_listTables s named given
    have found : s.gateway.catalog.source source.name = .ok source :=
      Catalog.source_eq_ok_iff.2 (keyed.sources.get? listed)
    show (s.gateway.catalog.source source.name).map _ = _
    rw [found]
    rfl
  addresses := fun summary member uri leads => read_summary s keyed member leads _
  resources := by
    intro params
    show Except.ok (Wire.ResourcesList.toJson ⟨Resources.list s.gateway.catalog⟩) = _
    rw [Wire.ResourcesList.toJson, Resources.list, List.map_map]
    rfl
  json := by
    refine ⟨_, read_summaries _, fun i asks input => ?_⟩
    rw [perform, asks]
    rfl
  grid := by
    intro filled
    obtain ⟨text, drawn, shown⟩ := sourcesText_drawn (isEmpty_eq_false_iff.2 filled)
    refine ⟨_, text, drawn, ?_, fun i asks input => ?_⟩
    · have rows : (tablesGrid s.gateway.catalog).rows.map (·.take 2) =
          s.gateway.listTables.map fun ref => [ref.source, ref.table] := by
        simp [tablesGrid, Gateway.listTables, Catalog.tableRefs]
      have flat : s.gateway.listTables = _ := Catalog.tableRefs_eq keyed
      rw [rows, flat, List.map_flatMap]
      simp only [List.map_map]
      rfl
    · rw [perform, asks, length_listTables, ← shown]
      rfl
  nothing := by
    intro bare i asks input
    have empty : s.gateway.catalog.isEmpty = true := by
      rw [← Bool.not_eq_false, isEmpty_eq_false_iff]
      exact not_not_intro bare
    rw [perform, asks]
    dsimp only
    rw [Traced.value_pure, if_neg (by decide), sourcesText, empty, if_pos rfl]

end Shown

/-- **Listings and lookups agree.** In a catalog that was built, a table is listed exactly if each
lookup finds it. If it is not, each lookup says that it is not there, in the same words; so do the tool
that describes it and its address, and nothing is asked of the engine. Sources, the tables of a source
and all tables are listed in the order of the octets of their names, each once, and counted right; and
every listing shows these names in this order. -/
theorem listings_and_lookups_agree {t : Files.FileTree} {root : Files.Path} {s : Server}
    (built : (Catalog.build t root).value = .ok s.gateway.catalog) :
    (∀ source table, List.TFAE [
      ⟨source, table⟩ ∈ s.gateway.listTables,
      ∃ summary ∈ s.gateway.catalog.summaries,
        summary.name = source ∧ table ∈ summary.tables,
      ∃ names, s.gateway.catalog.sourceTables source = .ok names ∧ table ∈ names,
      ∃ tb, s.gateway.catalog.table source table = .ok tb,
      ∃ path, s.gateway.catalog.dataFile source table = .ok path,
      ∃ fields, s.gateway.catalog.tableSchema source table = .ok fields,
      ∃ fields, s.gateway.describeTable source table = .ok fields]) ∧
    (∀ source table, ⟨source, table⟩ ∉ s.gateway.listTables → ∃ message,
      Missed s.gateway source table message ∧
      (∀ call : ToolCall, call.name = "evidence-describe-table" →
        call.arguments.field? "source" = some (.string source) →
        call.arguments.field? "table" = some (.string table) →
        (s.callTool call).calls = [] ∧
        (s.callTool call).value = .ok ⟨[⟨"Error: " ++ message⟩], true⟩) ∧
      (source ≠ "" → table ≠ "" →
        parse? (ofTable source table) = some (.table source table)) ∧
      ∀ uri, parse? uri = some (.table source table) →
        (Resources.read s.gateway s.config.resultLimit uri).calls = [] ∧
        (Resources.read s.gateway s.config.resultLimit uri).value =
          ⟨uri, "text/plain", "Error querying table: " ++ message⟩) ∧
    s.gateway.catalog.InOrder ∧
    s.gateway.catalog.tableCount = s.gateway.listTables.length ∧
    Shows s s.gateway.catalog.summaries := by
  have keyed := (Catalog.sound_of_build built).keyed
  refine ⟨Query.lookups_agree keyed, ?_, keyed.inOrder, ?_, shows_summaries s keyed⟩
  · intro source table unlisted
    obtain ⟨message, missed⟩ := Query.missed_of_not_listed keyed unlisted
    refine ⟨message, missed, ?_, ?_, ?_⟩
    · intro call named outer inner
      exact callTool_missed s missed named outer inner
    · intro outer inner
      rw [ResourceUri.parse?_ofTable, if_neg (by simp [outer, inner])]
    · intro uri leads
      exact read_missed s missed leads s.config.resultLimit
  · exact (length_listTables s).symm

/-- The one script is listed and found, and a table that is not there is missed by its address. -/
theorem sales_listed_and_missed :
    (Catalog.build Catalog.oneScript Catalog.here).value = .ok salesServer.gateway.catalog ∧
    ⟨"sales", "orders"⟩ ∈ salesServer.gateway.listTables ∧
    (∃ fields, salesServer.gateway.describeTable "sales" "orders" = .ok fields) ∧
    ⟨"sales", "items"⟩ ∉ salesServer.gateway.listTables ∧
    (∃ message, Missed salesServer.gateway "sales" "items" message ∧
      (Resources.read salesServer.gateway salesServer.config.resultLimit
        "evidence://query/sales/items").value =
          ⟨"evidence://query/sales/items", "text/plain", "Error querying table: " ++ message⟩) ∧
    salesServer.gateway.catalog.tableCount = 1 := by
  have built : (Catalog.build Catalog.oneScript Catalog.here).value =
    .ok salesServer.gateway.catalog := Catalog.oneScript_build
  obtain ⟨lookups, missing, -, counted, -⟩ := listings_and_lookups_agree built
  have listed : salesServer.gateway.listTables = [⟨"sales", "orders"⟩] := rfl
  have here : ⟨"sales", "orders"⟩ ∈ salesServer.gateway.listTables := by
    rw [listed]
    exact List.mem_singleton_self _
  have absent : ⟨"sales", "items"⟩ ∉ salesServer.gateway.listTables := by
    rw [listed]
    decide
  have found := ((lookups "sales" "orders").out 0 6).1 here
  obtain ⟨message, missed, -, -, addressed⟩ := missing "sales" "items" absent
  obtain ⟨-, shown⟩ := addressed "evidence://query/sales/items" (by decide)
  refine ⟨built, here, found, absent, ⟨message, missed, shown⟩, ?_⟩
  rw [counted, listed]
  rfl

end DataShelf.Server
