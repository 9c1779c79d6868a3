import DataShelf.Proofs.Lookups
import DataShelf.Proofs.SchemaChanges
import DataShelf.Proofs.SchemaFields
import DataShelf.Proofs.ToolCalls

/-!
# Tables described by schema files

What a client is told of a table is what the contents of its schema file say (`Echoes`). Whatever the
file holds, the table is listed (`sidecars_echoed`). A file whose lists and objects lie too deep
in each other says nothing, even if it is such a list (`deepSidecar_not_echoed`).
-/

namespace DataShelf.Catalog
set_option autoImplicit false

open Files (Name Path FileTree)
open Json (Spells nestings)
open Query (Gateway)
open Server (Tool)

variable {t t' : FileTree} {root p : Path} {c : Catalog} {source table : String} {tb : Table}
  {place : List Name} {contents : List UInt8}

/-! ### Tables of a catalog -/

/-- The fields of a table are those that the contents of its schema file describe. -/
theorem schemaFields_eq (proper : t.Proper) (built : (build t root).value = .ok c)
    (found : c.table source table = .ok tb) (sidecar : tb.schemaFile = some p)
    (there : t.locate true p = .ok place)
    (held : t.root.descend place = some (.file contents)) :
    tb.schemaFields = describedBy contents := by
  have read : t.readFile p = .ok contents :=
    FileTree.readFile_eq_ok_iff.2 (FileTree.node_of_locate there held)
  rw [described_of_build proper built found, sidecar, Option.map_some, Option.getD_some,
    value_loadSchema read]

/-- The tool that describes tables shows the fields of a table of the catalog. -/
theorem execute_describeTable_of_table {g : Gateway} {arguments : Json}
    (found : g.catalog.table source table = .ok tb)
    (outer : arguments.field? "source" = some (.string source))
    (inner : arguments.field? "table" = some (.string table)) :
    Tool.describeTable.execute g arguments =
      pure (.ok (.array (tb.schemaFields.map SchemaField.toJson))) := by
  rw [Server.execute_describeTable outer inner, Gateway.describeTable, tableSchema, found]
  rfl

/-- What a file holds that is not the manifest decides nothing about which tables there are. -/
theorem exists_table_of_same (proper : t.Proper) (built : (build t root).value = .ok c)
    (found : c.table source table = .ok tb)
    (same : FileTree.SameBut (fun other => other = place) t t')
    (aside : t.locate true (root.joinText Manifest.fileName) ≠ .ok place) :
    ∃ c' tb', (build t' root).value = .ok c' ∧ c'.table source table = .ok tb' ∧
      tb'.outline = tb.outline := by
  have directory := (sources_of_build built).2.1
  have directory' : t'.isDirectory root := by rwa [same.isDirectory]
  obtain rfl := Except.ok.inj ((build_of_directory directory).symm.trans built)
  obtain ⟨-, sources⟩ := Prod.mk.inj (outline_discover proper same fun other there here =>
    aside (here ▸ there))
  have listed := SourceMap.table?_outline (discover t' root).value.2 source table
  rw [sources, SourceMap.table?_outline, table_eq_ok_iff_table?.1 found] at listed
  obtain ⟨tb', found', alike⟩ := Option.map_eq_some_iff.1 listed.symm
  exact ⟨_, tb', build_of_directory directory', table_eq_ok_iff_table?.2 found', alike⟩

/-- A table of a catalog is listed, and so is its name in its source. -/
theorem listed_of_table (built : (build t root).value = .ok c)
    (found : c.table source table = .ok tb) :
    ⟨source, table⟩ ∈ c.tableRefs ∧ ∃ names, c.sourceTables source = .ok names ∧ table ∈ names := by
  obtain ⟨s, outer, inner⟩ := table_eq_ok_iff.1 found
  have holds : c.Holds source table := ⟨s, tb, outer, inner⟩
  exact ⟨(mem_tableRefs_iff (sound_of_build built).keyed).2 holds, mem_sourceTables_iff.2 holds⟩

/-! ### Schema files of orders -/

/-- The tree of orders with a text in its schema file. -/
def withSidecar (text : String) : FileTree := withOrdersSchema (Text.octets text)

theorem sameBut_withSidecar (text : String) :
    FileTree.SameBut (fun other => other = ordersSchema) Manifest.ordersTree (withSidecar text) :=
  sameBut_withOrdersSchema _

theorem withSidecar_descend (text : String) :
    (withSidecar text).root.descend ordersSchema = some (.file (Text.octets text)) :=
  FileTree.descend_withContents ordersTree_descend _ _

theorem readText_withSidecar {text : String}
    (there : (withSidecar text).locate true p = .ok ordersSchema) :
    (withSidecar text).readText p = .ok text :=
  FileTree.readText_eq_ok_iff.2
    ⟨_, FileTree.node_of_locate there (withSidecar_descend text), Text.ofOctets?_octets text⟩

/-- The tree of orders has the table of orders with its schema file, whatever is in that. -/
theorem exists_withSidecar (text : String) : (withSidecar text).Proper ∧
    ∃ c tb p, (build (withSidecar text) here).value = .ok c ∧
      c.table "sales" "orders" = .ok tb ∧ tb.schemaFile = some p ∧
      (withSidecar text).locate true p = .ok ordersSchema ∧
      (withSidecar text).locate true (here.joinText Manifest.fileName) ≠ .ok ordersSchema := by
  have proper := Manifest.ordersTree_proper
  have same := sameBut_withSidecar text
  have down : Manifest.ordersTree.root.descend ordersSchema =
      some (.file (Text.octets "[]")) := by
    rfl
  have located : Manifest.ordersTree.locate true (Manifest.schemaPath here "sales" "orders") =
      .ok ordersSchema := by
    have path : Manifest.schemaPath here "sales" "orders" = ordersSchema.foldl Path.child here := by
      decide
    rw [path]
    exact FileTree.locate_below proper (FileTree.locate_dot rfl) rfl down (by simp) (by decide)
  have described : Manifest.ordersTree.isFile (Manifest.schemaPath here "sales" "orders") := by
    rw [FileTree.isFile, FileTree.node_of_locate located down]
  have declares := Manifest.ordersManifest_declares.2 ⟨rfl, rfl⟩
  obtain ⟨c, built, listed, complete⟩ := Manifest.exists_build Manifest.withManifest_directory
    (Manifest.read_treeOf Manifest.read_ordersText) Manifest.ordersManifest_shaped declares
    Manifest.ordersTree_file
  obtain ⟨e, member, outer, inner⟩ := complete _ _ declares Manifest.ordersTree_file
  have found := (sound_of_build built).keyed.table_names member
  have table := (listed e member).2.2
  rw [outer, inner] at found table
  obtain ⟨c', tb, built', found', alike⟩ :=
    exists_table_of_same proper built found same ordersSchema_aside
  refine ⟨same.proper proper, c', tb, _, built', found', ?_, (same.locate true _).trans located,
    same.locate true _ ▸ ordersSchema_aside⟩
  rw [(Table.outline_eq_iff.1 alike).2.2.1, table, Manifest.declaredTable]
  exact congrArg Table.schemaFile (if_pos described)

/-- The arguments that name the table of orders. -/
def ordersArguments : Json := .object [("source", .string "sales"), ("table", .string "orders")]

/-- A schema file with the description of one field, its name and type behind another member. -/
def unitSidecar : String :=
  "[\x7b\"unit\":\x7b\"scale\":[1,null]\x7d,\"type\":\"INTEGER\",\"name\":\"id\"\x7d]"

/-- What is said of the field. -/
def unitField : Json := .object [
  ("unit", .object [("scale", .array [.integer 1, .null])]),
  ("type", .string "INTEGER"),
  ("name", .string "id")]

set_option maxRecDepth 40000 in
theorem unitSidecar_verbatim :
    Json.whole (Json.verbatim nestings) unitSidecar.toList = .ok (.array [unitField]) := by
  rfl

set_option maxRecDepth 40000 in
theorem read_unitSidecar : Json.read unitSidecar = .ok (.array [unitField]) := by
  rfl

/-- The schema file describes one field. -/
theorem unitSidecar_describes : Describes unitSidecar [unitField] where
  spelled := ⟨nestings, unitSidecar_verbatim⟩
  shallow := by
    obtain ⟨rest, read, -⟩ := Json.whole_eq_ok_iff.1 unitSidecar_verbatim
    exact Json.shallow_of_verbatim read
  fields := by simpa using ⟨⟨_, rfl⟩, _, rfl⟩

/-! ### What a client is told -/

/-- **Schema files.** The tool that describes tables answers what the schema file of a table says.
In a tree where that file holds something else, and is not the manifest, the table is still listed,
with the same schema file. -/
theorem sidecars_echoed (proper : t.Proper) (built : (build t root).value = .ok c)
    (found : c.table source table = .ok tb) (sidecar : tb.schemaFile = some p)
    (there : t.locate true p = .ok place)
    (held : t.root.descend place = some (.file contents)) :
    (∃ answer, Echoes contents answer ∧ ∀ g : Gateway, g.catalog = c → ∀ arguments : Json,
      arguments.field? "source" = some (.string source) →
      arguments.field? "table" = some (.string table) →
      Tool.describeTable.execute g arguments = pure (.ok (.array answer))) ∧
    ∀ t', FileTree.SameBut (fun other => other = place) t t' →
      t.locate true (root.joinText Manifest.fileName) ≠ .ok place →
      ∃ c' tb', (build t' root).value = .ok c' ∧ c'.table source table = .ok tb' ∧
        tb'.schemaFile = some p ∧ ⟨source, table⟩ ∈ c'.tableRefs ∧
        ∃ names, c'.sourceTables source = .ok names ∧ table ∈ names := by
  refine ⟨⟨_, echoes_describedBy contents, ?_⟩, fun t' same aside => ?_⟩
  · rintro g rfl arguments outer inner
    rw [execute_describeTable_of_table found outer inner,
      schemaFields_eq proper built found sidecar there held]
  · obtain ⟨c', tb', built', found', alike⟩ :=
      exists_table_of_same proper built found same aside
    have schema : tb'.schemaFile = tb.schemaFile := (Table.outline_eq_iff.1 alike).2.2.1
    exact ⟨c', tb', built', found', schema.trans sidecar, listed_of_table built' found'⟩

/-- The field is shown with its name and type in front, and with the schema file "[]" there still is
the table of orders. -/
theorem unitSidecar_echoed :
    ∃ c, (build (withSidecar unitSidecar) here).value = .ok c ∧
      (∀ g : Gateway, g.catalog = c → Tool.describeTable.execute g ordersArguments =
        pure (.ok (.array [.object [("name", .string "id"), ("type", .string "INTEGER"),
          ("unit", .object [("scale", .array [.integer 1, .null])])]]))) ∧
      ∃ c', (build Manifest.ordersTree here).value = .ok c' ∧
        ⟨"sales", "orders"⟩ ∈ c'.tableRefs := by
  obtain ⟨proper, c, tb, p, built, found, sidecar, there, aside⟩ := exists_withSidecar unitSidecar
  obtain ⟨⟨answer, echoes, executed⟩, listed⟩ :=
    sidecars_echoed proper built found sidecar there (withSidecar_descend unitSidecar)
  have shows := echoes.described unitSidecar _ (Text.ofOctets?_octets _) unitSidecar_describes
    (Json.keysOnce_of_read read_unitSidecar)
  obtain ⟨c', -, built', -, -, refs, -⟩ := listed _ (sameBut_withSidecar unitSidecar).symm aside
  refine ⟨c, built, fun g same => ?_, c', built', refs⟩
  rw [executed g same _ rfl rfl, shows]
  rfl

/-! ### A schema file that is too deep -/

/-- So many lists in each other. -/
def lists : Nat → Json
  | 0 => .array []
  | n + 1 => .array [lists n]

/-- The text of so many lists in each other, in front of another. -/
def bracketed : Nat → List Char → List Char
  | 0, rest => '[' :: ']' :: rest
  | n + 1, rest => '[' :: bracketed n (']' :: rest)

/-- Brackets are read as the lists that they enclose. -/
theorem verbatim_bracketed (n : Nat) (rest : List Char) :
    Json.verbatim (n + 1) (bracketed n rest) = .ok (lists n, rest) := by
  induction n generalizing rest with
  | zero => exact Json.valueBy_of_list rfl (Json.closing_eq_ok_iff.2 ⟨']' :: rest, rfl, rfl⟩)
  | succ n ih =>
    have begins : ∃ behind, bracketed n (']' :: rest) = '[' :: behind := by
      cases n <;> exact ⟨_, rfl⟩
    obtain ⟨behind, begins⟩ := begins
    refine Json.valueBy_of_list rfl (Json.closing_eq_ok_iff.2 ⟨']' :: rest, ?_, rfl⟩)
    have found : Json.nextElement true (bracketed n (']' :: rest)) =
        .ok (true, bracketed n (']' :: rest)) := by
      rw [begins]
      rfl
    have single := ih (']' :: rest)
    rw [Json.elements, begins]
    rw [begins] at found single
    exact Json.items_step found single (Json.items_stop rfl _) _

/-- So many lists in each other are deeper than that. -/
theorem not_shallow_lists (n : Nat) : ¬(lists n).Shallow n := by
  induction n with
  | zero =>
    intro h
    obtain ⟨_, room⟩ := h.pos rfl
    cases room
  | succ n ih => exact fun h => ih (h.items _ List.mem_cons_self)

/-- Lists without objects repeat no key. -/
theorem keysOnce_lists (n : Nat) : (lists n).KeysOnce := by
  induction n with
  | zero => exact .array (by simp)
  | succ n ih => exact .array (by simpa using ih)

/-- A field whose description has 126 lists in each other. -/
def deepField : Json :=
  .object [("x", lists 125), ("name", .string "id"), ("type", .string "INTEGER")]

/-- A schema file with the description of that field. -/
def deepSidecar : String :=
  String.ofList ('[' :: '\x7b' :: '"' :: 'x' :: '"' :: ':' ::
    bracketed 125 ",\"name\":\"id\",\"type\":\"INTEGER\"\x7d]".toList)

/-- The deep schema file spells a list of one description. -/
theorem deepSidecar_spells : Spells deepSidecar (.array [deepField]) := by
  refine ⟨128, Json.whole_eq_ok_iff.2 ⟨[], ?_, rfl⟩⟩
  rw [deepSidecar, String.toList_ofList]
  refine Json.valueBy_of_list rfl (Json.closing_eq_ok_iff.2 ⟨[']'], ?_, rfl⟩)
  have object : Json.verbatim 127 ('\x7b' :: '"' :: 'x' :: '"' :: ':' ::
      bracketed 125 ",\"name\":\"id\",\"type\":\"INTEGER\"\x7d]".toList) =
        .ok (deepField, [']']) := by
    refine Json.valueBy_of_object rfl (Json.closing_eq_ok_iff.2 ⟨['\x7d', ']'], ?_, rfl⟩)
    refine Json.items_step rfl
      (Json.member_eq_ok_iff.2 ⟨_, _, rfl, rfl, verbatim_bracketed 125 _⟩) ?_ _
    rfl
  exact Json.items_step rfl object (Json.items_stop rfl _) _

/-- The description says nothing to a client, for its lists lie too deep in each other. -/
theorem deepSidecar_not_echoed :
    Spells deepSidecar (.array [deepField]) ∧ (Json.array [deepField]).KeysOnce ∧
    IsField deepField ∧
    ∃ c tb p, (build (withSidecar deepSidecar) here).value = .ok c ∧
      c.table "sales" "orders" = .ok tb ∧ tb.schemaFile = some p ∧
      (withSidecar deepSidecar).readText p = .ok deepSidecar ∧
      ∀ g : Gateway, g.catalog = c →
        Tool.describeTable.execute g ordersArguments = pure (.ok (.array [])) := by
  have deep : ∀ items, ¬Describes deepSidecar items := by
    intro items described
    have same := Json.array.inj (described.spelled.unique deepSidecar_spells)
    have shallow : deepField.Shallow 126 := described.shallow.items _ (same ▸ List.mem_cons_self)
    exact not_shallow_lists 125 (shallow.fields _ List.mem_cons_self)
  have once : deepField.KeysOnce := by
    refine .object (by decide) ?_
    simp only [List.forall_mem_cons]
    exact ⟨keysOnce_lists 125, .flat rfl, .flat rfl, by simp⟩
  obtain ⟨proper, c, tb, p, built, found, sidecar, there, -⟩ := exists_withSidecar deepSidecar
  have held := withSidecar_descend deepSidecar
  refine ⟨deepSidecar_spells, .array (by simpa using once), ⟨⟨_, rfl⟩, _, rfl⟩, c, tb, p, built,
    found, sidecar, readText_withSidecar there, ?_⟩
  rintro g rfl
  rw [execute_describeTable_of_table found rfl rfl,
    schemaFields_eq proper built found sidecar there held, describedBy_of_other deep]
  rfl

end DataShelf.Catalog
