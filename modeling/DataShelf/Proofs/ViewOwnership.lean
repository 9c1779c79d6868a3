import DataShelf.Proofs.CatalogTables
import DataShelf.Proofs.StatementQuoting

/-!
# Sessions and previews agree on owners

A session makes a view for the owners alone and counts what it left out; a preview goes through the
whole catalog. Both come to the same owner of every view name, however many tables compose to it and
whatever fails when the views are made (`registration_and_preview_agree`).
-/

namespace DataShelf.Query
set_option autoImplicit false

open Catalog (Source Table viewName)
open Files (FileTree)
open Engine (Statement Call)

/-- What a notice says under a name. -/
def noticeDetail? (n : Notice) (name : String) : Option String := n.details.lookup name

/-- The tables that a session has a view for. -/
def withView (t : FileTree) (e : Engine) (tables : List Entry) : List Entry :=
  (splits [] tables).filterMap fun s => if (fate t e s.1 s.2).isRegistered then some s.2 else none

/-- The tables that a session has left out. -/
def leftOut (t : FileTree) (e : Engine) (tables : List Entry) : List Entry :=
  (splits [] tables).filterMap fun s => if (fate t e s.1 s.2).isRegistered then none else some s.2

variable {t : FileTree} {e : Engine} {tables : List Entry}

/-- As many tables are counted as registered as have a view. -/
theorem Made.registered_eq {state : Owners × Session} (h : Made t e tables state) :
    state.2.registered = (withView t e tables).length := by
  rw [h.registered, withView, List.length_filterMap_eq_countP]
  congr 1
  funext s
  cases (fate t e s.1 s.2).isRegistered <;> rfl

theorem Made.skipped_eq {state : Owners × Session} (h : Made t e tables state) :
    state.2.skipped = (leftOut t e tables).length := by
  rw [h.skipped, leftOut, List.length_filterMap_eq_countP]
  congr 1
  funext s
  cases (fate t e s.1 s.2).isRegistered <;> rfl

theorem Made.total {state : Owners × Session} (h : Made t e tables state) :
    state.2.registered + state.2.skipped = tables.length := by
  rw [h.registered, h.skipped, ← length_splits [] tables,
    List.length_eq_countP_add_countP fun s => (fate t e s.1 s.2).isRegistered]
  simp

/-- A table has a view exactly if it owns the name, its statement can be built, and the engine takes
it behind those for the tables before. -/
theorem isRegistered_iff {before : List Entry} {entry : Entry} :
    (fate t e before entry).isRegistered ↔
      (∀ x ∈ before, viewOf x ≠ viewOf entry) ∧
      ∃ sql, viewStatement t entry.1.name entry.2 = .ok sql ∧
        e.batch (sentFor t before) sql = none := by
  fun_cases fate t e before entry with
  | case1 owner found =>
    have taken := List.mem_of_find?_eq_some found
    have same := List.find?_some found
    simp only [beq_iff_eq] at same
    constructor
    · intro registered
      cases registered
    · rintro ⟨free, -⟩
      exact absurd same (free owner taken)
  | case2 found err built => simp [Fate.isRegistered, built]
  | case3 found sql built message failed => simp [Fate.isRegistered, built, failed]
  | case4 found sql built accepted =>
    have free := List.find?_eq_none.1 found
    simp only [beq_iff_eq] at free
    simp only [Fate.isRegistered, true_iff]
    exact ⟨free, sql, built, accepted⟩

/-- A table has a view if it is the first of that view and the engine took its statement. -/
theorem mem_withView_iff {x : Entry} :
    x ∈ withView t e tables ↔
      ∃ before after, tables = before ++ x :: after ∧ (∀ y ∈ before, viewOf y ≠ viewOf x) ∧
        ∃ sql, viewStatement t x.1.name x.2 = .ok sql ∧ e.batch (sentFor t before) sql = none := by
  rw [withView, List.mem_filterMap]
  constructor
  · rintro ⟨⟨before, y⟩, split, chosen⟩
    obtain ⟨made, same⟩ := Option.ite_none_right_eq_some.1 chosen
    obtain rfl := Option.some.inj same
    obtain ⟨_, after, split, rfl⟩ := mem_splits_iff.1 split
    exact ⟨before, after, split, isRegistered_iff.1 made⟩
  · rintro ⟨before, after, split, made⟩
    exact ⟨(before, x), mem_splits_iff.2 ⟨before, after, split, rfl⟩,
      if_pos (isRegistered_iff.2 made)⟩

/-- The notice for a table that is left out is a warning and names the table. -/
theorem notice?_names (f : Fate) (entry : Entry) :
    ((f.notice? entry).map fun n => (n.level, noticeDetail? n "source", noticeDetail? n "table")) =
      if f.isRegistered then none
      else some (.warning, some entry.1.name, some entry.2.name) := by
  cases f <;> rfl

/-- Each table that is left out has one notice, in order. -/
theorem notices_name_leftOut (t : FileTree) (e : Engine) (tables : List Entry) :
    (((splits [] tables).filterMap fun s => (fate t e s.1 s.2).notice? s.2).map fun n =>
        (n.level, noticeDetail? n "source", noticeDetail? n "table")) =
      (leftOut t e tables).map fun x => (.warning, some x.1.name, some x.2.name) := by
  rw [leftOut, List.map_filterMap, List.map_filterMap]
  congr 1
  funext s
  rw [notice?_names]
  cases (fate t e s.1 s.2).isRegistered <;> rfl

/-- What opening a session comes to: the statements of the owners are sent in order, the tables are
counted by what became of them, and each table that is left out has one warning with its name. -/
structure Registers (t : FileTree) (e : Engine) (c : Catalog)
    (run : Traced (Except QueryError Session)) (s : Session) : Prop where
  value : run.value = .ok s
  calls : run.calls = .open true :: batchCalls e ((owners c.tables).filterMap fun x =>
    (viewStatement t x.1.name x.2).toOption)
  registered : s.registered = (withView t e c.tables).length
  accepted : ∀ x, x ∈ withView t e c.tables ↔
    ∃ before after, c.tables = before ++ x :: after ∧ (∀ y ∈ before, viewOf y ≠ viewOf x) ∧
      ∃ sql, viewStatement t x.1.name x.2 = .ok sql ∧ e.batch (sentFor t before) sql = none
  skipped : s.skipped = (leftOut t e c.tables).length
  total : s.registered + s.skipped = c.tableCount
  warnings : (run.notices.map fun n =>
      (n.level, noticeDetail? n "source", noticeDetail? n "table")) =
    (leftOut t e c.tables).map fun x => (.warning, some x.1.name, some x.2.name)

/-- A session that is opened has registered the tables. -/
theorem open_registers {c : Catalog} (opened : e.openFailure = none) :
    ∃ s, Registers t e c (Session.open t e c) s := by
  obtain ⟨owners, s, made, value, calls, notices⟩ := open_of_success (t := t) (c := c) opened
  refine ⟨s, value, calls, made.registered_eq, fun _ => mem_withView_iff, made.skipped_eq, ?_, ?_⟩
  · rw [← c.length_tables]
    exact made.total
  · rw [notices, notices_name_leftOut]

/-! ### Previews -/

section Preview

variable {g : Gateway}

/-- A statement that makes a view names it. -/
theorem viewStatement_names {source : String} {table : Table} {sql : String}
    (built : viewStatement t source table = .ok sql) :
    ∃ rest, sql =
      "CREATE VIEW " ++ Sql.identifier (viewName source table.name) ++ " AS " ++ rest := by
  rcases viewStatement_eq_ok_iff.1 built with ⟨-, same⟩ | ⟨-, script, -, -, same⟩
  · have words : " AS SELECT * FROM read_parquet(" = " AS " ++ "SELECT * FROM read_parquet(" := rfl
    refine ⟨"SELECT * FROM read_parquet(" ++ (Sql.literal table.dataFile.display ++ ")"), ?_⟩
    simp only [same, words, String.append_assoc]
  · refine ⟨scriptBody script, ?_⟩
    simp only [same, String.append_assoc]

theorem runQuery_ne_collision (sql : String) (x : Collision) :
    (g.runQuery sql).value ≠ .error (.viewCollision x) := by
  intro collides
  obtain ⟨message, other | other⟩ := runQuery_error_cases g sql collides <;> cases other

/-- The preview of a table that owns its view name is a query. -/
theorem preview_of_owner (keyed : g.catalog.WellKeyed) {entry : Entry}
    (owns : entry ∈ owners g.catalog.tables) (limit : Nat) :
    g.previewTable entry.1.name entry.2.name limit =
      g.runQuery ("SELECT * FROM " ++ Sql.identifier (viewOf entry) ++ " LIMIT " ++
        toString limit) := by
  have known := keyed.table_names ((owners_sublist _).subset owns)
  have found := viewOwner?_eq_some_iff.2 (mem_owners_iff.1 owns)
  rw [viewOf] at found
  simp [Gateway.previewTable, known, found, previewStatement_eq, viewOf]

/-- The preview of any other table names the owner, and the engine is not asked. -/
theorem preview_of_other (keyed : g.catalog.WellKeyed) {entry : Entry}
    (member : entry ∈ g.catalog.tables) (other : entry ∉ owners g.catalog.tables) (limit : Nat) :
    ∃ owner ∈ owners g.catalog.tables, viewOf owner = viewOf entry ∧
      g.previewTable entry.1.name entry.2.name limit =
        ⟨[], .error (.viewCollision ⟨viewOf entry, entry.1.name, entry.2.name,
          owner.1.name, owner.2.name⟩)⟩ := by
  obtain ⟨owner, owns⟩ := exists_owner member
  have known := keyed.table_names member
  have found := viewOwner?_eq_some_iff.2 owns
  have same : viewOf owner = viewOf entry := by
    obtain ⟨-, -, -, same, -⟩ := owns
    exact same
  have owning : owner ∈ owners g.catalog.tables := mem_owners_iff.2 (same ▸ owns)
  have different : ¬(owner.1.name = entry.1.name ∧ owner.2.name = entry.2.name) := by
    rintro ⟨source, table⟩
    apply other
    rw [← keyed.eq_of_names ((owners_sublist _).subset owning) member source table]
    exact owning
  refine ⟨owner, owning, same, ?_⟩
  rw [viewOf] at found
  simp only [Gateway.previewTable, known, found, if_neg different, viewOf]
  rfl

end Preview

/-- **Registration and preview agree.** The owners are the first tables of their view names. A
session sends their statements and no others; a preview of a table that is no owner names the owner
and asks nothing of the engine, and that of an owner selects from the view that its statement
makes. -/
theorem registration_and_preview_agree (g : Gateway) (keyed : g.catalog.WellKeyed) :
    (∀ entry, entry ∈ owners g.catalog.tables ↔ Owns g.catalog.tables (viewOf entry) entry) ∧
    (owners g.catalog.tables).Sublist g.catalog.tables ∧
    ((owners g.catalog.tables).Pairwise fun a b => viewOf a ≠ viewOf b) ∧
    (match g.engine.openFailure with
      | some message =>
        (Session.open g.files g.engine g.catalog).value = .error (.session message) ∧
        (Session.open g.files g.engine g.catalog).calls = [.open false]
      | none =>
        ∃ s, Registers g.files g.engine g.catalog (Session.open g.files g.engine g.catalog) s) ∧
    ∀ entry ∈ g.catalog.tables, ∀ limit,
      (entry ∉ owners g.catalog.tables →
        ∃ owner ∈ owners g.catalog.tables, viewOf owner = viewOf entry ∧
          g.previewTable entry.1.name entry.2.name limit =
            ⟨[], .error (.viewCollision ⟨viewOf entry, entry.1.name, entry.2.name,
              owner.1.name, owner.2.name⟩)⟩) ∧
      (entry ∈ owners g.catalog.tables →
        g.previewTable entry.1.name entry.2.name limit =
          g.runQuery ("SELECT * FROM " ++ Sql.identifier (viewOf entry) ++ " LIMIT " ++
            toString limit) ∧
        (∀ x, (g.previewTable entry.1.name entry.2.name limit).value ≠ .error (.viewCollision x)) ∧
        ∀ sql, viewStatement g.files entry.1.name entry.2 = .ok sql →
          ∃ rest, sql = "CREATE VIEW " ++ Sql.identifier (viewOf entry) ++ " AS " ++ rest) := by
  refine ⟨fun _ => mem_owners_iff, owners_sublist _, owners_distinct _, ?_, ?_⟩
  · cases failed : g.engine.openFailure with
    | some message =>
      obtain ⟨calls, -, value⟩ := open_of_failure (t := g.files) (c := g.catalog) failed
      exact ⟨value, calls⟩
    | none => exact open_registers failed
  · intro entry member limit
    refine ⟨fun other => preview_of_other keyed member other limit, fun owns => ?_⟩
    have preview := preview_of_owner keyed owns limit
    refine ⟨preview, ?_, fun sql built => viewStatement_names built⟩
    rw [preview]
    exact runQuery_ne_collision _

/-- A table of a name, in a source of its own. -/
def entryOf (source table : String) : Entry :=
  let tb : Table := ⟨table, Files.Path.ofString table, none, [], .parquet⟩
  (⟨source, Files.Path.ofString source, ⟨[(table, tb)], List.pairwise_singleton _ _⟩⟩, tb)

/-- Two tables whose names compose to one view name. -/
def colliding : Gateway where
  files := default
  engine := ⟨none, fun _ _ => none, fun _ _ => .table [] .done, fun _ => none⟩
  catalog := ⟨Files.Path.ofString "data", .directoryScan,
    ⟨[("a", (entryOf "a" "b_c").1), ("a_b", (entryOf "a_b" "c").1)], by decide⟩⟩

theorem colliding_wellKeyed : colliding.catalog.WellKeyed := by
  constructor <;> simp [Catalog.NameMap.KeyedBy, Catalog.NameMap.values, colliding, entryOf]

/-- Of two tables with one view name the second is refused, and the first is named. -/
theorem preview_of_second_is_refused :
    colliding.catalog.WellKeyed ∧
    colliding.previewTable "a_b" "c" 10 =
      ⟨[], .error (.viewCollision ⟨"a_b_c", "a_b", "c", "a", "b_c"⟩)⟩ := by
  have tables : colliding.catalog.tables = [entryOf "a" "b_c", entryOf "a_b" "c"] := rfl
  have owning : owners colliding.catalog.tables = [entryOf "a" "b_c"] := rfl
  obtain ⟨-, -, -, -, previews⟩ := registration_and_preview_agree colliding colliding_wellKeyed
  obtain ⟨refused, -⟩ := previews (entryOf "a_b" "c") (by simp [tables]) 10
  obtain ⟨owner, owns, -, preview⟩ := refused (by simp [owning, entryOf])
  rw [owning, List.mem_singleton] at owns
  subst owns
  exact ⟨colliding_wellKeyed, preview⟩

end DataShelf.Query
