import DataShelf.Catalog.Basic
import DataShelf.Proofs.NameMap

/-!
# The tables of a catalog

A catalog is well keyed if each source and each table stands under its own name. Then the two names
of a table lead to it (`WellKeyed.table_names`), and no two tables have the same two names
(`WellKeyed.eq_of_names`).
-/

namespace DataShelf.Catalog
set_option autoImplicit false

/-- Each source and each table stands under its own name. -/
structure WellKeyed (c : Catalog) : Prop where
  sources : c.sources.KeyedBy Source.name
  tables : ∀ s ∈ c.sources.values, s.tables.KeyedBy Table.name

variable {c : Catalog}

theorem mem_tables_iff {e : Source × Table} :
    e ∈ c.tables ↔ e.1 ∈ c.sources.values ∧ e.2 ∈ e.1.tables.values := by
  simp only [tables, List.mem_flatMap, List.mem_map]
  constructor
  · rintro ⟨s, hs, tb, htb, rfl⟩
    exact ⟨hs, htb⟩
  · rintro ⟨hs, htb⟩
    exact ⟨e.1, hs, e.2, htb, rfl⟩

/-- The tables are as many as their count says. -/
theorem length_tables (c : Catalog) : c.tables.length = c.tableCount := by
  suffices counted : ∀ (sources : List Source) (n : Nat),
      n + (sources.flatMap fun s => s.tables.values.map fun t => (s, t)).length =
        sources.foldl (fun n s => n + s.tables.size) n by
    have all := counted c.sources.values 0
    rwa [Nat.zero_add] at all
  intro sources
  induction sources with
  | nil => exact fun _ => rfl
  | cons s rest ih =>
    intro n
    rw [List.foldl_cons, ← ih, List.flatMap_cons, List.length_append, List.length_map,
      NameMap.values, List.length_map, NameMap.size, Nat.add_assoc]

/-- Looking a table up means looking its source up first. -/
theorem table_eq_ok_iff {source table : String} {tb : Table} :
    c.table source table = .ok tb ↔
      ∃ s, c.sources.get? source = some s ∧ s.tables.get? table = some tb := by
  cases known : c.sources.get? source with
  | none => simp [Catalog.table, Catalog.source, known, bind, Except.bind]
  | some s =>
    cases found : s.tables.get? table <;>
      simp [Catalog.table, Catalog.source, known, found, bind, Except.bind]

/-- The names of a table lead to it. -/
theorem WellKeyed.table_names (h : c.WellKeyed) {e : Source × Table} (member : e ∈ c.tables) :
    c.table e.1.name e.2.name = .ok e.2 := by
  obtain ⟨source, table⟩ := mem_tables_iff.1 member
  exact table_eq_ok_iff.2 ⟨e.1, h.sources.get? source, (h.tables e.1 source).get? table⟩

/-- Tables with the same names are the same. -/
theorem WellKeyed.eq_of_names (h : c.WellKeyed) {e e' : Source × Table} (member : e ∈ c.tables)
    (member' : e' ∈ c.tables) (source : e.1.name = e'.1.name) (table : e.2.name = e'.2.name) :
    e = e' := by
  obtain ⟨s, tb⟩ := e
  obtain ⟨s', tb'⟩ := e'
  obtain ⟨hs, htb⟩ := mem_tables_iff.1 member
  obtain ⟨hs', htb'⟩ := mem_tables_iff.1 member'
  have same : s = s' := by
    have here := h.sources.mem_entries hs
    rw [source] at here
    exact NameMap.unique here (h.sources.mem_entries hs')
  subst same
  have here := (h.tables s hs).mem_entries htb
  rw [table] at here
  exact congrArg (Prod.mk s) (NameMap.unique here ((h.tables s hs).mem_entries htb'))

end DataShelf.Catalog
