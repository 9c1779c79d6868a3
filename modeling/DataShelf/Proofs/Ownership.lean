import DataShelf.Query.Gateway
import Mathlib.Data.List.Induction

/-!
# Who owns a view name

Several tables may compose to one view name; the first of them in the catalog owns it (`Owns`).
`owners` lists the tables that own their view names, and everything is said of a table and the ones
before it (`splits`), so that what a session finds out step by step can be compared with it. The
search through the whole catalog finds the same owner (`viewOwner?_eq_some_iff`).
-/

namespace DataShelf.Query
set_option autoImplicit false

open Catalog (Source Table viewName)
open Files (FileTree)

/-! ### A list and what stands before each member -/

section Splits

variable {α : Type}

/-- The members of a list, each with `before` and the members before it. -/
def splits (before : List α) : List α → List (List α × α)
  | [] => []
  | a :: rest => (before, a) :: splits (before ++ [a]) rest

/-- The last item is split from all the others. -/
theorem splits_snoc (before l : List α) (a : α) :
    splits before (l ++ [a]) = splits before l ++ [(before ++ l, a)] := by
  induction l generalizing before with
  | nil => simp [splits]
  | cons b l ih => simp [splits, ih]

/-- A split is an item with all that is in front of it. -/
theorem mem_splits_iff {before l : List α} {s : List α × α} :
    s ∈ splits before l ↔ ∃ front behind, l = front ++ s.2 :: behind ∧ s.1 = before ++ front := by
  obtain ⟨earlier, a⟩ := s
  induction l generalizing before with
  | nil => simp [splits]
  | cons b l ih =>
    simp only [splits, List.mem_cons, Prod.mk.injEq, ih]
    constructor
    · rintro (⟨rfl, rfl⟩ | ⟨front, behind, rfl, rfl⟩)
      · exact ⟨[], l, rfl, by simp⟩
      · exact ⟨b :: front, behind, rfl, by simp⟩
    · rintro ⟨front, behind, split, rfl⟩
      cases front with
      | nil =>
        obtain ⟨rfl, rfl⟩ := List.cons.inj split
        exact .inl ⟨List.append_nil _, rfl⟩
      | cons c front =>
        simp only [List.cons_append, List.cons.injEq] at split
        exact .inr ⟨front, behind, split.2, by simp [split.1]⟩

/-- The items of the splits are those of the list. -/
theorem map_splits (before l : List α) : (splits before l).map (·.2) = l := by
  induction l generalizing before with
  | nil => rfl
  | cons a l ih => simp [splits, ih]

theorem length_splits (before l : List α) : (splits before l).length = l.length := by
  rw [← List.length_map (·.2), map_splits]

end Splits

/-! ### Owners -/

/-- A table with its source. -/
abbrev Entry := Source × Table

/-- The name of the view of a table. -/
def viewOf (e : Entry) : String := viewName e.1.name e.2.name

/-- A table is the first of some tables whose view has a name. -/
def Owns (tables : List Entry) (view : String) (e : Entry) : Prop :=
  ∃ before after, tables = before ++ e :: after ∧ viewOf e = view ∧ ∀ x ∈ before, viewOf x ≠ view

/-- The table, unless one of those before it has a view of the same name. -/
def unlessTaken (s : List Entry × Entry) : Option Entry :=
  if s.1.all fun x => viewOf x != viewOf s.2 then some s.2 else none

/-- The tables that own the names of their views, in order. -/
def owners (tables : List Entry) : List Entry := (splits [] tables).filterMap unlessTaken

/-- An entry owns its view unless an entry in front of it has the same. -/
theorem unlessTaken_eq_some_iff {s : List Entry × Entry} {e : Entry} :
    unlessTaken s = some e ↔ s.2 = e ∧ ∀ x ∈ s.1, viewOf x ≠ viewOf e := by
  simp only [unlessTaken, List.all_eq_true, bne_iff_ne, Option.ite_none_right_eq_some,
    Option.some.injEq]
  constructor
  · rintro ⟨free, rfl⟩
    exact ⟨rfl, free⟩
  · rintro ⟨rfl, free⟩
    exact ⟨free, rfl⟩

theorem unlessTaken_eq_none_iff {s : List Entry × Entry} :
    unlessTaken s = none ↔ ∃ owner, s.1.find? (fun x => viewOf x == viewOf s.2) = some owner := by
  rw [← Option.isSome_iff_exists, List.find?_isSome]
  simp [unlessTaken]

/-- The owners are the entries that are the first of their views. -/
theorem mem_owners_iff {tables : List Entry} {e : Entry} :
    e ∈ owners tables ↔ Owns tables (viewOf e) e := by
  rw [owners, List.mem_filterMap]
  constructor
  · rintro ⟨⟨earlier, a⟩, hs, ha⟩
    obtain ⟨rfl, free⟩ := unlessTaken_eq_some_iff.1 ha
    obtain ⟨before, after, split, rfl⟩ := mem_splits_iff.1 hs
    exact ⟨earlier, after, split, rfl, free⟩
  · rintro ⟨before, after, split, -, free⟩
    exact ⟨(before, e), mem_splits_iff.2 ⟨before, after, split, rfl⟩,
      unlessTaken_eq_some_iff.2 ⟨rfl, free⟩⟩

theorem owners_snoc (tables : List Entry) (e : Entry) :
    owners (tables ++ [e]) = owners tables ++ (unlessTaken (tables, e)).toList := by
  rw [owners, splits_snoc, List.filterMap_append]
  cases h : unlessTaken (tables, e) <;> simp [owners, h]

/-- Owners stand in the order of the catalog. -/
theorem owners_sublist (tables : List Entry) : (owners tables).Sublist tables := by
  induction tables using List.reverseRecOn with
  | nil => exact .refl _
  | append_singleton tables e ih =>
    rw [owners_snoc]
    refine ih.append ?_
    cases h : unlessTaken (tables, e) with
    | none => exact List.nil_sublist _
    | some x =>
      obtain ⟨rfl, -⟩ := unlessTaken_eq_some_iff.1 h
      exact .refl _

/-- No two owners have views of one name. -/
theorem owners_distinct (tables : List Entry) :
    (owners tables).Pairwise fun a b => viewOf a ≠ viewOf b := by
  induction tables using List.reverseRecOn with
  | nil => exact .nil
  | append_singleton tables e ih =>
    rw [owners_snoc, List.pairwise_append]
    refine ⟨ih, ?_, ?_⟩
    · cases unlessTaken (tables, e) <;> simp
    · intro a ha b hb
      have free := (unlessTaken_eq_some_iff.1 (Option.mem_toList.1 hb)).2
      exact free a ((owners_sublist tables).subset ha)

/-- The search through the whole catalog finds the owner. -/
theorem viewOwner?_eq_some_iff {c : Catalog} {view : String} {e : Entry} :
    viewOwner? c view = some e ↔ Owns c.tables view e := by
  rw [viewOwner?, List.find?_eq_some_iff_append]
  simp only [beq_iff_eq, Bool.not_eq_true', beq_eq_false_iff_ne, Owns, viewOf]
  constructor
  · rintro ⟨name, before, after, split, free⟩
    exact ⟨before, after, split, name, free⟩
  · rintro ⟨before, after, split, name, free⟩
    exact ⟨name, before, after, split, free⟩

/-- Every view name that a table has is owned. -/
theorem exists_owner {tables : List Entry} {e : Entry} (he : e ∈ tables) :
    ∃ owner, Owns tables (viewOf e) owner := by
  cases h : tables.find? fun x => viewOf x == viewOf e with
  | none =>
    have taken := List.find?_eq_none.1 h e he
    simp at taken
  | some owner =>
    obtain ⟨name, before, after, split, free⟩ := List.find?_eq_some_iff_append.1 h
    exact ⟨owner, before, after, split, by simpa using name, fun x hx => by simpa using free x hx⟩

end DataShelf.Query
