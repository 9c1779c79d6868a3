import DataShelf.Proofs.PreviewViews
import DataShelf.Proofs.ResourceAddresses
import DataShelf.Proofs.Responses
import DataShelf.Proofs.WideText

/-!
# What is listed can be read

Each source of a catalog is listed with its address, and behind the address stand its name, the names
of its tables and its path, as text that gives them back (`read_source`, `read_sourceContents`). A
table stands behind the filled pattern, and reading it is a preview, which cannot miss it
(`isNotFound_preview`). Both hold as long as no name is nothing (`listed_resources_are_read`): where
nothing stands in place of a name there is no address (`unnamed_source_is_not_read`).
-/

namespace DataShelf.Server
set_option autoImplicit false

open Catalog (Source Table)
open Catalog.Manifest (dataPath withManifest)
open Query (Gateway QueryError)
open ResourceUri (encoded fill ofSource ofTable parse? tablePattern)

/-! ### Sources -/

/-- What is to be read of a source. -/
def sourceContents (source : Source) : Json := .object [
  ("source", .string source.name),
  ("tables", Json.texts source.tableNames),
  ("path", .string source.path.display)]

/-- The contents of a source are read as they were written. -/
theorem read_sourceContents (source : Source) :
    Json.read (Json.pretty (sourceContents source)) = .ok (sourceContents source) := by
  apply Json.read_pretty
  simp [sourceContents, Json.texts, Json.nestings]

/-- At the address of a source stands what is to be read of it. -/
theorem read_source {g : Gateway} (keyed : g.catalog.WellKeyed) {source : Source}
    (member : source ∈ g.catalog.sources.values) (named : source.name ≠ "") (limit : Nat) :
    (Resources.read g limit (ofSource source.name)).value =
      Resources.json (ofSource source.name) (sourceContents source) := by
  have found : g.catalog.source source.name = .ok source := by
    rw [Catalog.source, keyed.sources.get? member]
  rw [Resources.read, ResourceUri.parse?_ofSource, if_neg named]
  simp [Resources.readSource, found, sourceContents]

/-! ### Tables -/

/-- The preview of a table of a catalog never answers that it is not there. -/
theorem isNotFound_preview {g : Gateway} (keyed : g.catalog.WellKeyed) {entry : Query.Entry}
    (member : entry ∈ g.catalog.tables) {limit : Nat} {err : QueryError}
    (failed : (g.previewTable entry.1.name entry.2.name limit).value = .error err) :
    err.isNotFound = false := by
  -- Either the engine is asked, and its failures are others, or another table owns the view.
  by_cases owns : entry ∈ Query.owners g.catalog.tables
  · rw [Query.preview_of_owner keyed owns] at failed
    obtain ⟨message, rfl | rfl⟩ := Query.runQuery_error_cases g _ failed <;> rfl
  · obtain ⟨owner, -, -, refused⟩ := Query.preview_of_other keyed member owns limit
    rw [refused] at failed
    obtain rfl := Except.error.inj failed
    rfl

theorem queryMessage_eq {err : QueryError} (known : err.isNotFound = false) :
    Resources.queryMessage err = err.message := by
  cases err <;> first | rfl | cases known

/-- At the address of a table stand its first rows, or why they cannot be shown. -/
theorem read_table {g : Gateway} {source table : String} (outer : source ≠ "") (inner : table ≠ "")
    (limit : Nat) :
    (Resources.read g limit (ofTable source table)).value =
      Resources.ofOutcome (ofTable source table) "Error querying table: "
        (g.previewTable source table limit).value := by
  have parsed : parse? (ofTable source table) = some (.table source table) := by
    rw [ResourceUri.parse?_ofTable, if_neg (by simp [outer, inner])]
  simp [Resources.read, parsed]

/-! ### Reading what is listed -/

/-- Reading an address is answered by its contents. -/
theorem answer_read (s : Server) (uri : String) :
    (s.answer .resourcesRead (some (Wire.ResourceRead.toJson ⟨uri⟩))).value =
      .ok (Wire.ResourceReadResult.toJson
        ⟨[(Resources.read s.gateway s.config.resultLimit uri).value]⟩) :=
  rfl

/-- **What is listed can be read.** The resources of a catalog are the addresses of its sources. Behind
the address of a source with a name stands its name, the names of its tables and its path. The pattern
of tables, filled with the names of a table and its source, is parsed as just that table, and behind
it stand the first rows, or why they cannot be shown, but never that the table is not there. -/
theorem listed_resources_are_read {t : Files.FileTree} {root : Files.Path} {s : Server}
    (built : (Catalog.build t root).value = .ok s.gateway.catalog) :
    (∃ listed : List Wire.ResourceDefinition,
      (∀ params, (s.answer .resourcesList params).value = .ok (Wire.ResourcesList.toJson ⟨listed⟩)) ∧
      listed.map (·.uri) = s.gateway.catalog.sources.values.map fun source => ofSource source.name) ∧
    (∀ source ∈ s.gateway.catalog.sources.values, source.name ≠ "" →
      ∃ text, (s.answer .resourcesRead
          (some (Wire.ResourceRead.toJson ⟨ofSource source.name⟩))).value =
        .ok (Wire.ResourceReadResult.toJson ⟨[⟨ofSource source.name, "application/json", text⟩]⟩) ∧
        Json.read text = .ok (sourceContents source)) ∧
    ∀ entry ∈ s.gateway.catalog.tables, entry.1.name ≠ "" → entry.2.name ≠ "" → ∀ query,
      let uri := fill (encoded entry.1.name entry.2.name query) tablePattern
      parse? uri = some (.table entry.1.name entry.2.name) ∧
      ∃ contents, (s.answer .resourcesRead (some (Wire.ResourceRead.toJson ⟨uri⟩))).value =
          .ok (Wire.ResourceReadResult.toJson ⟨[contents]⟩) ∧
        match (s.gateway.previewTable entry.1.name entry.2.name s.config.resultLimit).value with
        | .ok result =>
          contents = ⟨uri, "application/json", Json.pretty (.array result.records)⟩
        | .error err =>
          err.isNotFound = false ∧
          contents = ⟨uri, "text/plain", "Error querying table: " ++ err.message⟩ := by
  have keyed := (Catalog.sound_of_build built).keyed
  refine ⟨⟨_, fun _ => rfl, ?_⟩, fun source member named => ?_,
    fun entry member outer inner query => ?_⟩
  · simp [Resources.list, Catalog.summaries, Resources.define, Catalog.SourceSummary.ofSource]
  · refine ⟨Json.pretty (sourceContents source), ?_, read_sourceContents source⟩
    rw [answer_read, read_source keyed member named]
    rfl
  · dsimp only
    rw [ResourceUri.fill_tablePattern, ResourceUri.parse?_ofTable, if_neg (by simp [outer, inner])]
    refine ⟨rfl, _, answer_read _ _, ?_⟩
    rw [read_table outer inner]
    cases shown : (s.gateway.previewTable entry.1.name entry.2.name s.config.resultLimit).value with
    | ok result => rfl
    | error err =>
      have known := isNotFound_preview keyed member shown
      refine ⟨known, ?_⟩
      rw [Resources.ofOutcome, queryMessage_eq known]
      rfl

/-- A server over the catalog of one script. -/
def salesServer : Server := ⟨.usual, ⟨Catalog.oneScript, Query.accepting, Catalog.salesCatalog⟩⟩

/-- The table of the script, with its source. -/
def salesOrders : Query.Entry :=
  let table := Table.of "orders" Catalog.ordersScript none []
  ((Source.of "sales" (Catalog.here.child (.ofString "sales"))).add table, table)

/-- The rows of the table are none. -/
theorem preview_salesOrders :
    (salesServer.gateway.previewTable salesOrders.1.name salesOrders.2.name
      salesServer.config.resultLimit).value = .ok ⟨[], []⟩ := by
  have keyed : salesServer.gateway.catalog.WellKeyed :=
    (Catalog.sound_of_build Catalog.oneScript_build).keyed
  have owns : salesOrders ∈ Query.owners salesServer.gateway.catalog.tables :=
    List.mem_singleton_self _
  rw [Query.preview_of_owner keyed owns]
  exact (Query.runQuery_of_success _ _ rfl).2

/-- The source of the script and its table are read. -/
theorem sales_are_read :
    (Catalog.build Catalog.oneScript Catalog.here).value = .ok salesServer.gateway.catalog ∧
    (∃ text, (salesServer.answer .resourcesRead
        (some (Wire.ResourceRead.toJson ⟨"evidence://sales"⟩))).value =
      .ok (Wire.ResourceReadResult.toJson ⟨[⟨"evidence://sales", "application/json", text⟩]⟩) ∧
      Json.read text = .ok (.object [
        ("source", .string "sales"), ("tables", Json.texts ["orders"]),
        ("path", .string "./sales")])) ∧
    (salesServer.answer .resourcesRead
        (some (Wire.ResourceRead.toJson ⟨"evidence://query/sales/orders"⟩))).value =
      .ok (Wire.ResourceReadResult.toJson
        ⟨[⟨"evidence://query/sales/orders", "application/json", "[]"⟩]⟩) := by
  have built : (Catalog.build Catalog.oneScript Catalog.here).value =
    .ok salesServer.gateway.catalog := Catalog.oneScript_build
  have outer : ofSource salesOrders.1.name = "evidence://sales" := by decide
  have path : salesOrders.1.path.display = "./sales" := by decide
  have inner : fill (encoded salesOrders.1.name salesOrders.2.name "") tablePattern =
    "evidence://query/sales/orders" := by decide
  obtain ⟨-, sources, tables⟩ := listed_resources_are_read built
  obtain ⟨text, answered, reads⟩ := sources salesOrders.1 (List.mem_singleton_self _) (by decide)
  obtain ⟨-, contents, given, shown⟩ :=
    tables salesOrders (List.mem_singleton_self _) (by decide) (by decide) ""
  rw [outer] at answered
  rw [sourceContents, path] at reads
  rw [preview_salesOrders, inner] at shown
  rw [inner] at given
  subst shown
  exact ⟨built, ⟨text, answered, reads⟩, given⟩

/-! ### Names that are nothing -/

/-- A manifest of a source without a name, and of a table without one. -/
def unnamedText : String :=
  "\x7b\"sources\": \x7b\"\": \x7b\"tables\": \x7b\"orders\": \x7b\x7d\x7d\x7d, " ++
    "\"sales\": \x7b\"tables\": \x7b\"\": \x7b\x7d\x7d\x7d\x7d\x7d"

/-- What the manifest says. -/
def unnamedManifest : Json := .object [("sources", .object [
  ("", .object [("tables", .object [("orders", .object [])])]),
  ("sales", .object [("tables", .object [("", .object [])])])])]

set_option maxRecDepth 40000 in
theorem read_unnamedText : Json.read unnamedText = .ok unnamedManifest := by
  rfl

/-- The tree of the manifest and of the two data files. -/
def unnamedTree : Files.FileTree := withManifest unnamedText [
  (.ofString "orders", .directory [(.ofString "orders.parquet", .file [])]),
  (.ofString "sales", .directory [(.ofString ".parquet", .file [])])]

theorem unnamedTree_proper : unnamedTree.Proper := by
  apply Files.FileTree.proper_of_names
  intro n member
  have all : ∀ n ∈ [Files.Name.ofString "manifest.json", .ofString "orders",
      .ofString "orders.parquet", .ofString "sales", .ofString ".parquet"], n.Proper := by
    decide
  exact all n member

theorem unnamedManifest_shaped : Catalog.Manifest.Shaped unnamedManifest := by
  refine .sources rfl rfl fun e member => ?_
  simp only [List.mem_cons, List.not_mem_nil, or_false] at member
  rcases member with rfl | rfl <;> exact ⟨_, rfl, .inr ⟨_, rfl⟩⟩

/-- Both data files are there. -/
theorem unnamedTree_files : unnamedTree.isFile (dataPath Catalog.here "" "orders") ∧
    unnamedTree.isFile (dataPath Catalog.here "sales" "") := by
  have manifest : Files.Name.ofString "manifest.json" ≠ .ofString "orders" ∧
    Files.Name.ofString "manifest.json" ≠ .ofString "sales" := by decide
  have apart : Files.Name.ofString "orders" ≠ .ofString "sales" := by decide
  have unnamedSource : dataPath Catalog.here "" "orders" =
    [Files.Name.ofString "orders", .ofString "orders.parquet"].foldl Files.Path.child
      Catalog.here := by decide
  have unnamedTable : dataPath Catalog.here "sales" "" =
    [Files.Name.ofString "sales", .ofString ".parquet"].foldl Files.Path.child
      Catalog.here := by decide
  have orders : unnamedTree.root.descend [.ofString "orders", .ofString "orders.parquet"] =
      some (.file []) := by
    simp [unnamedTree, withManifest, Catalog.Manifest.fileName, Files.Node.named?, manifest]
  have sales : unnamedTree.root.descend [.ofString "sales", .ofString ".parquet"] =
      some (.file []) := by
    simp [unnamedTree, withManifest, Catalog.Manifest.fileName, Files.Node.named?, manifest, apart]
  rw [unnamedSource, unnamedTable]
  exact ⟨Catalog.Manifest.isFile_withManifest unnamedTree_proper orders (by decide),
    Catalog.Manifest.isFile_withManifest unnamedTree_proper sales (by decide)⟩

/-- A source without a name is listed and cannot be read, and the filled pattern leads to no table
without a name. -/
theorem unnamed_source_is_not_read :
    ∃ c, (Catalog.build unnamedTree Catalog.here).value = .ok c ∧
      (∃ d ∈ Resources.list c, d.uri = "evidence://" ∧
        (Resources.read ⟨unnamedTree, Query.accepting, c⟩ Query.previewLimit d.uri).value =
          ⟨"evidence://", "text/plain", "Unrecognized resource URI: evidence://"⟩) ∧
      ∃ entry ∈ c.tables, entry.1.name = "sales" ∧ entry.2.name = "" ∧
        parse? (fill (encoded "sales" "" "") tablePattern) = none := by
  obtain ⟨outer, inner⟩ := unnamedTree_files
  obtain ⟨c, built, -, listed⟩ := Catalog.Manifest.exists_build
    Catalog.Manifest.withManifest_directory
    (Catalog.Manifest.read_withManifest unnamedTree_proper read_unnamedText)
    unnamedManifest_shaped (.sources rfl rfl rfl rfl rfl) outer
  obtain ⟨first, member, source, -⟩ := listed "" "orders" (.sources rfl rfl rfl rfl rfl) outer
  obtain ⟨second, member', source', table⟩ := listed "sales" "" (.sources rfl rfl rfl rfl rfl) inner
  have address : (Resources.define (.ofSource first.1)).uri = "evidence://" := by
    show ofSource first.1.name = _
    rw [source]
    decide
  refine ⟨c, built, ⟨Resources.define (.ofSource first.1), ?_, address, ?_⟩, second, member',
    source', table, ?_⟩
  · exact List.mem_map_of_mem (List.mem_map_of_mem (Catalog.mem_tables_iff.1 member).1)
  · rw [address]
    rfl
  · rw [ResourceUri.fill_tablePattern, ResourceUri.parse?_ofTable]
    rfl

end DataShelf.Server
