import DataShelf.Proofs.CatalogTables
import DataShelf.Proofs.ObjectKeys
import DataShelf.Proofs.Octets
import DataShelf.Query.Gateway
import Mathlib.Data.List.TFAE

/-!
# Listings and lookups of a catalog

What is listed of a well-keyed catalog and what is looked up in it are the same tables: some of the
ways go by the keys of its maps, others by the names in the records, and all come down to one fact
about the maps (`Holds`, `lookups_agree`). A table that is not there is missed in every lookup by the
same error (`missed_of_not_listed`). The names are listed in the order of their octets, each once
(`pairwise_tableRefs`).
-/

namespace DataShelf.Catalog
set_option autoImplicit false

namespace NameMap

variable {α : Type} {m : NameMap α}

/-- The names of a map are in the order of their octets, each once. -/
theorem pairwise_names (m : NameMap α) :
    m.names.Pairwise fun a b => Text.octets a < Text.octets b := by
  rw [names, List.pairwise_map]
  exact m.sorted.imp Text.octets_lt

end NameMap

variable {c : Catalog}

/-! ### The one fact -/

/-- A catalog holds a table under the name of its source and its own. -/
def Holds (c : Catalog) (source table : String) : Prop :=
  ∃ s tb, c.sources.get? source = some s ∧ s.tables.get? table = some tb

/-- A table is listed exactly if the catalog holds it. -/
theorem mem_tableRefs_iff (keyed : c.WellKeyed) {source table : String} :
    ⟨source, table⟩ ∈ c.tableRefs ↔ c.Holds source table := by
  rw [tableRefs, List.mem_map]
  constructor
  · rintro ⟨e, member, same⟩
    obtain ⟨rfl, rfl⟩ := TableRef.mk.inj same
    obtain ⟨outer, inner⟩ := mem_tables_iff.1 member
    exact ⟨e.1, e.2, keyed.sources.get? outer, (keyed.tables e.1 outer).get? inner⟩
  · rintro ⟨s, tb, outer, inner⟩
    have member := NameMap.mem_values_of_get? outer
    refine ⟨(s, tb), mem_tables_iff.2 ⟨member, NameMap.mem_values_of_get? inner⟩, ?_⟩
    rw [keyed.sources.key_of_get? outer, (keyed.tables s member).key_of_get? inner]

/-- A table is listed with its source exactly if the catalog holds it. -/
theorem mem_summaries_iff (keyed : c.WellKeyed) {source table : String} :
    (∃ summary ∈ c.summaries, summary.name = source ∧ table ∈ summary.tables) ↔
      c.Holds source table := by
  constructor
  · rintro ⟨summary, member, rfl, inside⟩
    obtain ⟨s, outer, rfl⟩ := List.mem_map.1 member
    obtain ⟨tb, inner⟩ := Option.isSome_iff_exists.1 (NameMap.mem_names_iff.1 inside)
    exact ⟨s, tb, keyed.sources.get? outer, inner⟩
  · rintro ⟨s, tb, outer, inner⟩
    refine ⟨.ofSource s, List.mem_map_of_mem (NameMap.mem_values_of_get? outer),
      keyed.sources.key_of_get? outer, ?_⟩
    rw [SourceSummary.ofSource, Source.tableNames, NameMap.mem_names_iff, inner]
    rfl

theorem source_eq_ok_iff {name : String} {s : Source} :
    c.source name = .ok s ↔ c.sources.get? name = some s := by
  unfold Catalog.source
  cases c.sources.get? name <;> simp

/-- A table is among those of its source exactly if the catalog holds it. -/
theorem mem_sourceTables_iff {source table : String} :
    (∃ names, c.sourceTables source = .ok names ∧ table ∈ names) ↔ c.Holds source table := by
  constructor
  · rintro ⟨names, found, member⟩
    obtain ⟨s, known, rfl⟩ := Json.map_eq_ok_iff.1 found
    obtain ⟨tb, inner⟩ := Option.isSome_iff_exists.1 (NameMap.mem_names_iff.1 member)
    exact ⟨s, tb, source_eq_ok_iff.1 known, inner⟩
  · rintro ⟨s, tb, outer, inner⟩
    refine ⟨s.tableNames, Json.map_eq_ok_iff.2 ⟨s, source_eq_ok_iff.2 outer, rfl⟩, ?_⟩
    rw [Source.tableNames, NameMap.mem_names_iff, inner]
    rfl

theorem table_ok_iff {source table : String} :
    (∃ tb, c.table source table = .ok tb) ↔ c.Holds source table := by
  rw [Holds, exists_comm]
  exact exists_congr fun tb => table_eq_ok_iff

/-- A table that is not held is not found: its source is not there, or it is not in its source. -/
theorem table_of_not_holds {source table : String} (missing : ¬c.Holds source table) :
    ∃ m, c.table source table = .error (.notFound m) := by
  unfold Catalog.table
  cases outer : c.sources.get? source with
  | none => exact ⟨"Source not found: " ++ source, by rw [Catalog.source, outer]; rfl⟩
  | some s =>
    rw [source_eq_ok_iff.2 outer]
    cases inner : s.tables.get? table with
    | none => exact ⟨_, by simp [bind, Except.bind, inner]; rfl⟩
    | some tb => exact absurd ⟨s, tb, outer, inner⟩ missing

/-! ### Order -/

/-- One table stands before another: by the octets of the names of their sources, and in one source
by those of their own names. -/
def TableRef.Before (a b : TableRef) : Prop :=
  Text.octets a.source < Text.octets b.source ∨
    a.source = b.source ∧ Text.octets a.table < Text.octets b.table

theorem names_of_summaries (keyed : c.WellKeyed) : c.summaries.map (·.name) = c.sources.names := by
  rw [summaries, List.map_map]
  exact keyed.sources.map_values

/-- Sources are listed in the order of the octets of their names. -/
theorem pairwise_summaries (keyed : c.WellKeyed) :
    c.summaries.Pairwise fun a b => Text.octets a.name < Text.octets b.name := by
  have names := c.sources.pairwise_names
  rw [← names_of_summaries keyed, List.pairwise_map] at names
  exact names

theorem pairwise_tables_of_summary {summary : SourceSummary} (member : summary ∈ c.summaries) :
    summary.tables.Pairwise fun a b => Text.octets a < Text.octets b := by
  obtain ⟨s, -, rfl⟩ := List.mem_map.1 member
  exact s.tables.pairwise_names

/-- The list of tables is that of the sources with their tables, laid flat. -/
theorem tableRefs_eq (keyed : c.WellKeyed) :
    c.tableRefs = c.summaries.flatMap fun summary =>
      summary.tables.map fun table => ⟨summary.name, table⟩ := by
  rw [tableRefs, tables, List.map_flatMap, summaries, List.flatMap_map]
  refine List.flatMap_congr fun s member => ?_
  have names : s.tableNames = s.tables.values.map Table.name :=
    (keyed.tables s member).map_values.symm
  rw [SourceSummary.ofSource, names, List.map_map, List.map_map]
  rfl

/-- Tables are listed in the order of their sources, and then of their own names. -/
theorem pairwise_tableRefs (keyed : c.WellKeyed) : c.tableRefs.Pairwise TableRef.Before := by
  rw [tableRefs_eq keyed, List.pairwise_flatMap]
  constructor
  · intro summary member
    rw [List.pairwise_map]
    refine (pairwise_tables_of_summary member).imp fun before => ?_
    exact .inr ⟨rfl, before⟩
  · refine (pairwise_summaries keyed).imp fun before x first y second => ?_
    obtain ⟨table, -, rfl⟩ := List.mem_map.1 first
    obtain ⟨table', -, rfl⟩ := List.mem_map.1 second
    exact .inl before

/-- The names in the lists of a catalog go up octet by octet, so each is there once. -/
structure InOrder (c : Catalog) : Prop where
  sources : c.summaries.Pairwise fun a b => Text.octets a.name < Text.octets b.name
  tables : ∀ summary ∈ c.summaries,
    summary.tables.Pairwise fun a b => Text.octets a < Text.octets b
  refs : c.tableRefs.Pairwise TableRef.Before

theorem WellKeyed.inOrder (keyed : c.WellKeyed) : c.InOrder where
  sources := pairwise_summaries keyed
  tables := fun _ member => pairwise_tables_of_summary member
  refs := pairwise_tableRefs keyed

end DataShelf.Catalog

namespace DataShelf.Query
set_option autoImplicit false

open Catalog (CatalogError)

variable {g : Gateway}

/-! ### Lookups -/

/-- **Lookups agree.** A table is listed exactly if the list of sources has it, if the tables of its
source are found and it is one of them, and if its record, its data file, its schema or its
description is found. -/
theorem lookups_agree (keyed : g.catalog.WellKeyed) (source table : String) :
    List.TFAE [
      ⟨source, table⟩ ∈ g.listTables,
      ∃ summary ∈ g.catalog.summaries, summary.name = source ∧ table ∈ summary.tables,
      ∃ names, g.catalog.sourceTables source = .ok names ∧ table ∈ names,
      ∃ tb, g.catalog.table source table = .ok tb,
      ∃ path, g.catalog.dataFile source table = .ok path,
      ∃ fields, g.catalog.tableSchema source table = .ok fields,
      ∃ fields, g.describeTable source table = .ok fields] := by
  have found : (∃ tb, g.catalog.table source table = .ok tb) ↔ g.catalog.Holds source table :=
    Catalog.table_ok_iff
  have part {α : Type} (f : Catalog.Table → α) :
      (∃ a, (g.catalog.table source table).map f = .ok a) ↔ g.catalog.Holds source table := by
    rw [← found]
    cases g.catalog.table source table <;> simp [Except.map]
  have described : (∃ fields, g.describeTable source table = .ok fields) ↔
      g.catalog.Holds source table := by
    rw [← part (·.schemaFields), Gateway.describeTable, Catalog.tableSchema]
    cases g.catalog.table source table <;> simp [Except.map, Except.mapError]
  apply List.tfae_of_forall (g.catalog.Holds source table)
  intro p member
  simp only [List.mem_cons, List.not_mem_nil, or_false] at member
  rcases member with rfl | rfl | rfl | rfl | rfl | rfl | rfl
  · exact Catalog.mem_tableRefs_iff keyed
  · exact Catalog.mem_summaries_iff keyed
  · exact Catalog.mem_sourceTables_iff
  · exact found
  · exact part _
  · exact part _
  · exact described

/-- Every lookup of a table says that it is not there, in the same words. -/
structure Missed (g : Gateway) (source table message : String) : Prop where
  record : g.catalog.table source table = .error (.notFound message)
  file : g.catalog.dataFile source table = .error (.notFound message)
  schema : g.catalog.tableSchema source table = .error (.notFound message)
  description : g.describeTable source table = .error (.catalog (.notFound message))
  preview : ∀ limit, g.previewTable source table limit =
    pure (.error (.catalog (.notFound message)))

/-- A table that is not there is missed in the same words by every way to it. -/
theorem missed_of_table {source table message : String}
    (missing : g.catalog.table source table = .error (.notFound message)) :
    Missed g source table message where
  record := missing
  file := by rw [Catalog.dataFile, missing]; rfl
  schema := by rw [Catalog.tableSchema, missing]; rfl
  description := by rw [Gateway.describeTable, Catalog.tableSchema, missing]; rfl
  preview := by
    intro limit
    rw [Gateway.previewTable, missing]

/-- A table that is not listed is missed. -/
theorem missed_of_not_listed (keyed : g.catalog.WellKeyed) {source table : String}
    (unlisted : ⟨source, table⟩ ∉ g.listTables) : ∃ message, Missed g source table message := by
  have missing : ¬g.catalog.Holds source table := by
    rw [← Catalog.mem_tableRefs_iff keyed]
    exact unlisted
  obtain ⟨message, missing⟩ := Catalog.table_of_not_holds missing
  exact ⟨message, missed_of_table missing⟩

end DataShelf.Query
