import DataShelf.Proofs.DeclaredTables
import DataShelf.Proofs.ViewOwnership
import Mathlib.Data.List.Nodup

/-!
# Whose rows a preview shows

A preview selects from a view by its name, and the engine takes two names for one if they differ only
in the case of ASCII letters (`alike`). A session makes one view for each owner
(`viewsMade_runQuery`), and owners have different names, letter by letter. So there is one view of
exactly the name that a preview selects from, but the engine may take another one for it, unless no
other owner has a name that is alike (`preview_selects_own_view`). Two sources of one name, in
capitals and in small letters, are enough for that (`preview_meets_view_in_capitals`).
-/

namespace DataShelf.Query
set_option autoImplicit false

open Catalog (Source Table viewName here)
open Catalog.Manifest
open Files (FileTree)
open Engine (Call)

/-- Whether the engine takes two names of views for one. -/
def alike (a b : String) : Bool := a.toList.map Char.toLower == b.toList.map Char.toLower

theorem alike_refl (a : String) : alike a a := beq_self_eq_true _

/-! ### The views of a session -/

/-- The name that a statement for a view gives it, and the statement. -/
def readView? (sql : String) : Option (String × String) :=
  (Sql.tokenBehind? "CREATE VIEW " sql).map fun r => (r.1, sql)

/-- The views that calls ask the engine to make, each as its name and the statement for it. -/
def viewsMade (calls : List Call) : List (String × String) :=
  calls.filterMap fun
    | .batch sql _ => readView? sql
    | _ => none

/-- The view that is built for a table, if it can be. -/
def ownView? (t : FileTree) (x : Entry) : Option (String × String) :=
  (viewStatement t x.1.name x.2).toOption.map fun sql => (viewOf x, sql)

theorem viewsMade_append (calls more : List Call) :
    viewsMade (calls ++ more) = viewsMade calls ++ viewsMade more :=
  List.filterMap_append

/-- A table makes the view of its name if it has a statement for it. -/
theorem ownView?_eq_some_iff {t : FileTree} {x : Entry} {v : String × String} :
    ownView? t x = some v ↔ viewOf x = v.1 ∧ viewStatement t x.1.name x.2 = .ok v.2 := by
  obtain ⟨name, sql⟩ := v
  cases built : viewStatement t x.1.name x.2 <;> simp [ownView?, built, Except.toOption]

/-- The name of a view is read off its statement. -/
theorem readView?_statement (t : FileTree) (x : Entry) :
    (viewStatement t x.1.name x.2).toOption.bind readView? = ownView? t x := by
  cases built : viewStatement t x.1.name x.2 with
  | error err => simp [ownView?, built, Except.toOption]
  | ok sql =>
    obtain ⟨_, read, -⟩ := built_view_reads_back built
    simp [ownView?, built, Except.toOption, readView?, read, viewOf, viewName]

/-- A run of statements makes the views that their texts create. -/
theorem viewsMade_batchCalls (e : Engine) (statements : List String) :
    viewsMade (batchCalls e statements) = statements.filterMap readView? := by
  have whole : statements.filterMap readView? =
      ((splits [] statements).map (·.2)).filterMap readView? := by rw [map_splits]
  rw [whole, viewsMade, batchCalls, List.filterMap_map, List.filterMap_map]
  rfl

/-- Registering tables makes the views of their owners. -/
theorem viewsMade_registrations (t : FileTree) (e : Engine) (tables : List Entry) :
    viewsMade (batchCalls e (registrations t tables)) = (owners tables).filterMap (ownView? t) := by
  rw [viewsMade_batchCalls, registrations, List.filterMap_filterMap]
  congr 1
  funext x
  exact readView?_statement t x

/-- A session makes the views of the owners, in order, and no others. -/
theorem viewsMade_runQuery {g : Gateway} (opened : g.engine.openFailure = none) (sql : String) :
    viewsMade (g.runQuery sql).calls = (owners g.catalog.tables).filterMap (ownView? g.files) := by
  have closing (sent : List Engine.Statement) : viewsMade (closingCalls g.engine sent) = [] := by
    unfold closingCalls
    split <;> rfl
  rw [(runQuery_of_success g sql opened).1, viewsMade_append,
    ← viewsMade_registrations g.files g.engine g.catalog.tables]
  have behind := closing (sentFor g.files g.catalog.tables ++ [.query sql])
  simp only [viewsMade, List.filterMap_cons] at behind ⊢
  rw [behind, List.append_nil]

/-! ### One view among them -/

section Among

variable {t : FileTree} {tables : List Entry} {entry : Entry}

/-- Of a list without repetitions only one member counts if the others give nothing. -/
theorem filterMap_eq_of_only {α β : Type} {f : α → Option β} {l : List α} {a : α}
    (distinct : l.Nodup) (member : a ∈ l) (others : ∀ x ∈ l, x ≠ a → f x = none) :
    l.filterMap f = (f a).toList := by
  induction l with
  | nil => cases member
  | cons b l ih =>
    obtain ⟨fresh, distinct⟩ := List.nodup_cons.1 distinct
    have below (x : α) (inside : x ∈ l) : x ≠ a → f x = none :=
      others x (List.mem_cons_of_mem _ inside)
    rw [List.filterMap_cons]
    rcases List.mem_cons.1 member with rfl | inside
    · have rest : l.filterMap f = [] := by
        refine List.filterMap_eq_nil_iff.2 fun x inside => below x inside ?_
        rintro rfl
        exact fresh inside
      cases f a <;> simp [rest]
    · have nothing : f b = none := by
        refine others b List.mem_cons_self ?_
        rintro rfl
        exact fresh inside
      simp [nothing, ih distinct inside below]

theorem nodup_owners (tables : List Entry) : (owners tables).Nodup :=
  (owners_distinct tables).imp fun different same => different (congrArg viewOf same)

theorem eq_of_owners {x : Entry} (owns : x ∈ owners tables) (owns' : entry ∈ owners tables)
    (same : viewOf x = viewOf entry) : x = entry :=
  List.inj_on_of_nodup_map (List.pairwise_map.2 (owners_distinct tables)) owns owns' same

/-- Views of some names are the views of the owners of those names. -/
theorem filter_views (wanted : String → Bool) (t : FileTree) (l : List Entry) :
    ((l.filterMap (ownView? t)).filter fun v => wanted v.1) =
      (l.filter fun x => wanted (viewOf x)).filterMap (ownView? t) := by
  rw [List.filter_filterMap, List.filterMap_filter]
  congr 1
  funext x
  cases built : ownView? t x with
  | none => simp
  | some v =>
    rw [(ownView?_eq_some_iff.1 built).1]
    rfl

/-- The view of an owner is the only one among those of some names exactly if no other owner of such
a name has a statement. -/
theorem filter_views_eq_iff (wanted : String → Bool) (owns : entry ∈ owners tables)
    (own : wanted (viewOf entry)) :
    (((owners tables).filterMap (ownView? t)).filter fun v => wanted v.1) =
        (ownView? t entry).toList ↔
      ∀ x ∈ owners tables, wanted (viewOf x) → x ≠ entry →
        ∀ sql, viewStatement t x.1.name x.2 ≠ .ok sql := by
  rw [filter_views]
  constructor
  · intro only x member named other sql built
    have made : ownView? t x = some (viewOf x, sql) := ownView?_eq_some_iff.2 ⟨rfl, built⟩
    -- The view of another owner would stand among them, under a name of its own.
    have listed : (viewOf x, sql) ∈ (ownView? t entry).toList := by
      rw [← only]
      exact List.mem_filterMap.2 ⟨x, List.mem_filter.2 ⟨member, named⟩, made⟩
    have same := (ownView?_eq_some_iff.1 (Option.mem_toList.1 listed)).1
    exact other (eq_of_owners member owns same.symm)
  · intro unbuilt
    refine filterMap_eq_of_only ((nodup_owners tables).filter _) (List.mem_filter.2 ⟨owns, own⟩) ?_
    intro x member other
    obtain ⟨member, named⟩ := List.mem_filter.1 member
    cases made : ownView? t x with
    | none => rfl
    | some v => exact absurd (ownView?_eq_some_iff.1 made).2 (unbuilt x member named other v.2)

end Among

/-! ### Previews -/

/-- A preview that sends a query is one of an owner, in a session that was opened. -/
theorem preview_of_sent {g : Gateway} (keyed : g.catalog.WellKeyed) {entry : Entry}
    (member : entry ∈ g.catalog.tables) {limit : Nat} {sql : String} {ok : Bool}
    (sent : Call.query sql ok ∈ (g.previewTable entry.1.name entry.2.name limit).calls) :
    entry ∈ owners g.catalog.tables ∧
    viewsMade (g.previewTable entry.1.name entry.2.name limit).calls =
      (owners g.catalog.tables).filterMap (ownView? g.files) := by
  by_cases owns : entry ∈ owners g.catalog.tables
  · refine ⟨owns, ?_⟩
    rw [preview_of_owner keyed owns] at sent ⊢
    cases failed : g.engine.openFailure with
    | some message => simp [(runQuery_of_failure g _ failed).1] at sent
    | none => exact viewsMade_runQuery failed _
  · obtain ⟨_, -, -, refused⟩ := preview_of_other keyed member owns limit
    rw [refused] at sent
    cases sent

/-- **Whose rows a preview shows.** A preview of a table of a catalog that sends its query selects from
the view of the table. The views of its session are those of the owners, one for each whose statement
can be built. The only one among them of exactly the name that is selected from is the one for the
table. The only one of a name that is alike is the one for the table exactly if no other owner has a
name that is alike, its statement built. -/
theorem preview_selects_own_view {t now : FileTree} {root : Files.Path} {c : Catalog}
    (built : (Catalog.build t root).value = .ok c) (e : Engine) {entry : Entry}
    (member : entry ∈ c.tables) {limit : Nat} {sql : String} {ok : Bool}
    (sent : Call.query sql ok ∈
      (Gateway.previewTable ⟨now, e, c⟩ entry.1.name entry.2.name limit).calls) :
    let views := viewsMade (Gateway.previewTable ⟨now, e, c⟩ entry.1.name entry.2.name limit).calls
    Sql.tokenBehind? "SELECT * FROM " sql = some (viewOf entry, " LIMIT " ++ toString limit) ∧
    views = (owners c.tables).filterMap (ownView? now) ∧
    (views.filter fun v => v.1 == viewOf entry) = (ownView? now entry).toList ∧
    ((views.filter fun v => alike v.1 (viewOf entry)) = (ownView? now entry).toList ↔
      ∀ x ∈ owners c.tables, alike (viewOf x) (viewOf entry) → x ≠ entry →
        ∀ sql, viewStatement now x.1.name x.2 ≠ .ok sql) := by
  have keyed := (Catalog.sound_of_build built).keyed
  obtain ⟨owns, views⟩ := preview_of_sent (g := ⟨now, e, c⟩) keyed member sent
  have selects := query_of_previewTable sent
  dsimp only
  rw [views, selects]
  refine ⟨preview_reads_back _ _, rfl, ?_, ?_⟩
  · refine (filter_views_eq_iff (· == viewOf entry) owns (by simp)).2 ?_
    intro x member same other
    exact absurd (eq_of_owners member owns (beq_iff_eq.1 same)) other
  · exact filter_views_eq_iff (alike · (viewOf entry)) owns (alike_refl _)

/-! ### Names in capitals -/

/-- A source with a table of orders, as a manifest describes it. -/
def ordersSource : Json := .object [("tables", .object [("orders", .object [])])]

/-- A manifest of two sources whose names differ in a capital only. -/
def capitalsText : String :=
  "\x7b\"sources\": \x7b\"Sales\": \x7b\"tables\": \x7b\"orders\": \x7b\x7d\x7d\x7d, " ++
    "\"sales\": \x7b\"tables\": \x7b\"orders\": \x7b\x7d\x7d\x7d\x7d\x7d"

/-- What the manifest says. -/
def capitalsManifest : Json :=
  .object [("sources", .object [("Sales", ordersSource), ("sales", ordersSource)])]

set_option maxRecDepth 40000 in
theorem read_capitalsText : Json.read capitalsText = .ok capitalsManifest := by
  rfl

/-- The directory of a source with the data file of orders. -/
def ordersBelow (source : String) : Files.Name × Files.Node :=
  (.ofString source, .directory [(.ofString "orders", .directory [
    (.ofString "orders.parquet", .file [])])])

/-- The tree of the manifest and of the two sources. -/
def capitalsTree : FileTree :=
  withManifest capitalsText [ordersBelow "Sales", ordersBelow "sales"]

/-- An engine that takes all statements and finds no rows. -/
def accepting : Engine := ⟨none, fun _ _ => none, fun _ _ => .table [] .done, fun _ => none⟩

theorem capitalsTree_proper : capitalsTree.Proper := by
  apply FileTree.proper_of_names
  intro n member
  have all : ∀ n ∈ [Files.Name.ofString "manifest.json", .ofString "Sales", .ofString "orders",
      .ofString "orders.parquet", .ofString "sales", .ofString "orders",
      .ofString "orders.parquet"], n.Proper := by decide
  exact all n member

/-- Both tables have their data files. -/
theorem capitalsTree_file {source : String} (known : source = "Sales" ∨ source = "sales") :
    capitalsTree.isFile (dataPath here source "orders") := by
  have name : "orders" ++ "." ++ Catalog.parquetExtension = "orders.parquet" := by decide
  have apart : Files.Name.ofString "Sales" ≠ .ofString "sales" := by decide
  have manifest : Files.Name.ofString "manifest.json" ≠ .ofString "Sales" ∧
    Files.Name.ofString "manifest.json" ≠ .ofString "sales" := by decide
  have part : Files.IsPart source := by rcases known with rfl | rfl <;> decide
  have down : capitalsTree.root.descend
      [.ofString source, .ofString "orders", .ofString "orders.parquet"] = some (.file []) := by
    rcases known with rfl | rfl <;>
      simp [capitalsTree, withManifest, ordersBelow, Files.Node.named?, fileName, apart, manifest]
  rw [dataPath_of_parts part (by decide), name]
  refine isFile_withManifest capitalsTree_proper down ?_
  rcases known with rfl | rfl <;> decide

theorem capitalsManifest_shaped : Shaped capitalsManifest := by
  refine .sources rfl rfl fun e member => ?_
  have all : e = ("Sales", ordersSource) ∨ e = ("sales", ordersSource) := by simpa using member
  rcases all with rfl | rfl <;> exact ⟨_, rfl, .inr ⟨_, rfl⟩⟩

/-- The manifest declares a table of orders in either source. -/
theorem capitalsManifest_declares {source table : String} :
    Declares capitalsManifest source table ↔
      (source = "Sales" ∨ source = "sales") ∧ table = "orders" := by
  rw [declares_iff_of_sources rfl rfl]
  constructor
  · rintro ⟨fields, tables, known, inside, member⟩
    have outer := Json.mem_of_lookup? known
    simp only [ordersSource, List.mem_cons, Prod.mk.injEq, Json.object.injEq, List.not_mem_nil,
      or_false, ← or_and_right] at outer
    obtain ⟨named, rfl⟩ := outer
    obtain rfl := Json.object.inj (Option.some.inj inside)
    simp [Json.lookup?] at member
    exact ⟨named, member.symm⟩
  · rintro ⟨rfl | rfl, rfl⟩ <;> exact ⟨_, _, rfl, rfl, rfl⟩

/-- The view of a declared table reads its data file. -/
theorem ownView?_declared {t now : FileTree} {root : Files.Path} {source table : String} {x : Entry}
    (outer : x.1.name = source) (inner : x.2 = declaredTable t root source table) :
    ownView? now x = some (viewName source table,
      createView (viewName source table) ++ "SELECT * FROM read_parquet(" ++
        Sql.literal (dataPath root source table).display ++ ")") := by
  rw [ownView?_eq_some_iff, viewOf, outer, inner, name_declaredTable]
  refine ⟨rfl, ?_⟩
  unfold declaredTable
  split <;> rfl

/-- Both tables of the tree own the names of their views. -/
theorem capitalsTree_owners :
    ∃ c, (Catalog.build capitalsTree here).value = .ok c ∧
      ∀ source, source = "Sales" ∨ source = "sales" → ∃ entry ∈ owners c.tables,
        entry.1.name = source ∧ entry.2 = declaredTable capitalsTree here source "orders" := by
  obtain ⟨c, built, declared, listed⟩ := exists_build withManifest_directory
    (read_withManifest capitalsTree_proper read_capitalsText) capitalsManifest_shaped
    (capitalsManifest_declares.2 ⟨.inl rfl, rfl⟩) (capitalsTree_file (.inl rfl))
  have keyed := (Catalog.sound_of_build built).keyed
  refine ⟨c, built, fun source known => ?_⟩
  obtain ⟨entry, member, rfl, named⟩ := listed source "orders"
    (capitalsManifest_declares.2 ⟨known, rfl⟩) (capitalsTree_file known)
  refine ⟨entry, ?_, rfl, named ▸ (declared entry member).2.2⟩
  -- The owner is one of the two tables, and the names of their views differ.
  obtain ⟨owner, owns⟩ := exists_owner member
  obtain ⟨before, after, split, same, -⟩ := id owns
  have inside : owner ∈ c.tables := by simp [split]
  obtain ⟨known', named'⟩ := capitalsManifest_declares.1 (declared owner inside).1
  have source : owner.1.name = entry.1.name := by
    rw [viewOf, viewOf, named, named'] at same
    rcases known with here | here <;> rcases known' with there | there <;>
      simp [here, there, viewName] at same ⊢
  obtain rfl := keyed.eq_of_names inside member source (named'.trans named.symm)
  exact mem_owners_iff.2 owns

/-- A session that is opened sends the query it is for. -/
theorem query_mem_runQuery {g : Gateway} (opened : g.engine.openFailure = none) (sql : String) :
    Call.query sql (isPrepared (g.answer sql)) ∈ (g.runQuery sql).calls := by
  rw [(runQuery_of_success g sql opened).1]
  simp

/-- Of exactly the name that is selected from there is one view in the session for the orders in small
letters. -/
theorem preview_of_small_letters :
    ∃ c entry, (Catalog.build capitalsTree here).value = .ok c ∧ entry ∈ c.tables ∧
      entry.1.name = "sales" ∧ entry.2.name = "orders" ∧
      let calls := (Gateway.previewTable ⟨capitalsTree, accepting, c⟩ "sales" "orders" 100).calls
      Call.query "SELECT * FROM \"sales_orders\" LIMIT 100" true ∈ calls ∧
      ((viewsMade calls).filter fun v => v.1 == "sales_orders") = [("sales_orders",
        "CREATE VIEW \"sales_orders\" AS SELECT * FROM read_parquet('./sales/orders/orders.parquet')")]
    := by
  obtain ⟨c, built, owned⟩ := capitalsTree_owners
  obtain ⟨entry, owns, source, table⟩ := owned "sales" (.inr rfl)
  have member := (owners_sublist _).subset owns
  have named : entry.2.name = "orders" := by rw [table, name_declaredTable]
  have sent : Call.query "SELECT * FROM \"sales_orders\" LIMIT 100" true ∈
      (Gateway.previewTable ⟨capitalsTree, accepting, c⟩ entry.1.name entry.2.name 100).calls := by
    rw [preview_of_owner (Catalog.sound_of_build built).keyed owns, viewOf, source, named]
    exact query_mem_runQuery rfl _
  obtain ⟨-, -, exact, -⟩ := preview_selects_own_view built accepting member sent
  rw [viewOf, ownView?_declared source table, source, named] at exact
  rw [source, named] at sent
  refine ⟨c, entry, built, member, source, named, sent, exact.trans ?_⟩
  decide

/-- The engine takes another view for it, that of the orders in capitals, which is made first. -/
theorem preview_meets_view_in_capitals :
    ∃ c entry, (Catalog.build capitalsTree here).value = .ok c ∧ entry ∈ c.tables ∧
      entry.1.name = "sales" ∧ entry.2.name = "orders" ∧
      let calls := (Gateway.previewTable ⟨capitalsTree, accepting, c⟩ "sales" "orders" 100).calls
      Call.query "SELECT * FROM \"sales_orders\" LIMIT 100" true ∈ calls ∧
      ∃ v ∈ viewsMade calls, alike v.1 "sales_orders" ∧ ownView? capitalsTree entry ≠ some v ∧
        v = ("Sales_orders",
          "CREATE VIEW \"Sales_orders\" AS SELECT * FROM read_parquet('./Sales/orders/orders.parquet')")
    := by
  obtain ⟨c, built, owned⟩ := capitalsTree_owners
  obtain ⟨entry, owns, source, table⟩ := owned "sales" (.inr rfl)
  obtain ⟨other, owning, capital, table'⟩ := owned "Sales" (.inl rfl)
  have named : entry.2.name = "orders" := by rw [table, name_declaredTable]
  have preview := preview_of_owner (g := ⟨capitalsTree, accepting, c⟩)
    (Catalog.sound_of_build built).keyed owns 100
  rw [viewOf, source, named] at preview
  refine ⟨c, entry, built, (owners_sublist _).subset owns, source, named, ?_⟩
  dsimp only
  rw [preview, viewsMade_runQuery rfl]
  refine ⟨query_mem_runQuery rfl _, _,
    List.mem_filterMap.2 ⟨other, owning, ownView?_declared capital table'⟩, by decide, ?_, ?_⟩
  · simp [ownView?_declared source table, viewName]
  · decide

end DataShelf.Query
