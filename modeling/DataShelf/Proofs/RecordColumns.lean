import DataShelf.Proofs.CompleteResults
import DataShelf.Proofs.ReadBack
import Mathlib.Data.List.Nodup

/-!
# Columns of records

A row has two forms. By position it has a value for each column; by name it has each name once, where
it first stands among the columns, with the value of the last column of that name
(`keys_objectOf`, `lookup?_objectOf_eq_some_iff`). So a record has all columns exactly if no two of
them have one name, be it a name that the engine gave or one made from the position of a column that
has none (`record_keeps_columns_iff`).
-/

namespace DataShelf.Json
set_option autoImplicit false

variable {pairs : Fields}

theorem objectOf_concat (pairs : Fields) (pair : String × Json) :
    objectOf (pairs ++ [pair]) = setField pair.1 pair.2 (objectOf pairs) := by
  simp [objectOf, List.foldl_append]

/-- Keys stand in the order in which they were first given. -/
theorem keys_objectOf (pairs : Fields) :
    (objectOf pairs).map (·.1) = (pairs.map (·.1)).eraseDups := by
  induction pairs using List.reverseRecOn with
  | nil => rfl
  | append_singleton pairs pair ih =>
    rw [objectOf_concat, keys_setField, ih, List.map_append, List.eraseDups_append]
    by_cases known : pair.1 ∈ pairs.map (·.1)
    · simp [List.removeAll, List.mem_eraseDups, known]
    · simp [List.removeAll, List.mem_eraseDups, known, List.eraseDups_cons]

/-- What stands in a list with one more item stands in the list or is that item. -/
theorem getElem?_concat_eq_some_iff {α : Type} {l : List α} {last a : α} {i : Nat} :
    (l ++ [last])[i]? = some a ↔ l[i]? = some a ∨ i = l.length ∧ last = a := by
  rcases Nat.lt_trichotomy i l.length with inside | rfl | outside
  · rw [List.getElem?_append_left inside]
    simp [Nat.ne_of_lt inside]
  · simp
  · have beyond : (l ++ [last])[i]? = none := by
      rw [List.getElem?_eq_none_iff, List.length_append, List.length_singleton]
      exact outside
    rw [beyond, List.getElem?_eq_none (Nat.le_of_lt outside)]
    simp [Nat.ne_of_gt outside]

/-- A key has the last of the values that it was given. -/
theorem lookup?_objectOf_eq_some_iff {key : String} {j : Json} :
    lookup? key (objectOf pairs) = some j ↔ ∃ i : Nat, pairs[i]? = some (key, j) ∧
      ∀ i' j', i < i' → pairs[i']? ≠ some (key, j') := by
  induction pairs using List.reverseRecOn generalizing j with
  | nil => simp [objectOf, lookup?]
  | append_singleton pairs pair ih =>
    obtain ⟨last, value⟩ := pair
    have inside {i : Nat} {e : String × Json} (here : pairs[i]? = some e) : i < pairs.length :=
      (List.getElem?_eq_some_iff.1 here).1
    rw [objectOf_concat, lookup?_setField]
    simp only [getElem?_concat_eq_some_iff, ne_eq, not_or, Prod.mk.injEq]
    by_cases same : key = last
    · subst same
      rw [if_pos rfl]
      constructor
      · rintro ⟨⟩
        refine ⟨pairs.length, .inr ⟨rfl, rfl, rfl⟩, fun i' j' later => ⟨fun old => ?_, ?_⟩⟩
        · exact absurd (inside old) (Nat.not_lt_of_gt later)
        · rintro ⟨rfl, -⟩
          exact Nat.lt_irrefl _ later
      · rintro ⟨i, old | ⟨-, -, rfl⟩, lastOne⟩
        · exact absurd ⟨rfl, rfl, rfl⟩ (lastOne pairs.length value (inside old)).2
        · rfl
    · rw [if_neg same, ih]
      constructor
      · rintro ⟨i, here, lastOne⟩
        refine ⟨i, .inl here, fun i' j' later => ⟨lastOne i' j' later, ?_⟩⟩
        rintro ⟨-, rfl, -⟩
        exact same rfl
      · rintro ⟨i, here | ⟨-, rfl, -⟩, lastOne⟩
        · exact ⟨i, here, fun i' j' later => (lastOne i' j' later).1⟩
        · exact absurd rfl same

end DataShelf.Json

namespace DataShelf.Query
set_option autoImplicit false

open Engine (Cell Rows)

/-! ### Names of columns -/

/-- No two columns have one name, given or made. -/
structure Distinct (columns : List (Option String)) : Prop where
  given : ∀ (i i' : Nat) (name : String), columns[i]? = some (some name) →
    columns[i']? = some (some name) → i = i'
  made : ∀ i i' : Nat, columns[i]? = some none →
    columns[i']? ≠ some (some ("column" ++ toString i))

/-- Items are apart if no item stands at two places. -/
theorem nodup_iff_getElem?_inj {α : Type} {l : List α} :
    l.Nodup ↔ ∀ (i i' : Nat) (a : α), l[i]? = some a → l[i']? = some a → i = i' := by
  rw [List.nodup_iff_getElem?_ne_getElem?]
  constructor
  · intro differ i i' a here there
    rcases Nat.lt_trichotomy i i' with before | same | behind
    · exact absurd (here.trans there.symm)
        (differ i i' before (List.getElem?_eq_some_iff.1 there).1)
    · exact same
    · exact absurd (there.trans here.symm)
        (differ i' i behind (List.getElem?_eq_some_iff.1 here).1)
  · intro inj i i' before within same
    have there := List.getElem?_eq_getElem within
    exact Nat.ne_of_lt before (inj i i' _ (same.trans there) there)

theorem numeral_inj {n n' : Nat} (same : toString n = toString n') : n = n' := by
  have read (k : Nat) : Nat.ofDigitChars 10 (toString k).toList 0 = k := by
    rw [show (toString k).toList = Nat.toDigits 10 k from String.toList_ofList]
    exact Nat.ofDigitChars_toDigits (by decide) (by decide)
  rw [← read n, ← read n']
  exact congrArg (fun s : String => Nat.ofDigitChars 10 s.toList 0) same

/-- The names of columns are apart exactly if the columns are distinct. -/
theorem nodup_columnNames_iff {columns : List (Option String)} :
    (columnNames columns).Nodup ↔ Distinct columns := by
  rw [nodup_iff_getElem?_inj]
  constructor
  · intro inj
    refine ⟨fun i i' name here there => ?_, fun i i' here there => ?_⟩
    · exact inj i i' name (getElem?_columnNames here) (getElem?_columnNames there)
    · obtain rfl := inj i i' _ (getElem?_columnNames here) (getElem?_columnNames there)
      rw [here] at there
      cases there
  · intro distinct i i' name here there
    have named {k : Nat} (at_k : (columnNames columns)[k]? = some name) :
        ∃ name?, columns[k]? = some name? ∧ name?.getD ("column" ++ toString k) = name := by
      simpa [columnNames, List.getElem?_zipIdx] using at_k
    obtain ⟨name?, at_i, rfl⟩ := named here
    obtain ⟨name?', at_i', same⟩ := named there
    cases name? with
    | some given =>
      cases name?' with
      | some given' =>
        obtain rfl : given' = given := same
        exact distinct.given i i' given' at_i at_i'
      | none =>
        obtain rfl : "column" ++ toString i' = given := same
        exact absurd at_i (distinct.made i' i at_i')
    | none =>
      cases name?' with
      | some given' =>
        obtain rfl : given' = "column" ++ toString i := same
        exact absurd at_i' (distinct.made i i' at_i)
      | none => exact (numeral_inj ((String.append_right_inj _).1 same)).symm

/-! ### Records -/

/-- A record has one entry for each column, in the order of the columns: the name of the column with
the value that the row has there by position. -/
structure KeepsColumns (columns : List String) (row : Row) : Prop where
  count : (row.toRecord columns).length = columns.length
  entry : ∀ (i : Nat) (name : String), columns[i]? = some name →
    ∃ j, row.toArray[i]? = some j ∧ (row.toRecord columns)[i]? = some (name, j)

section Record

variable {columns : List String} {row : Row}

theorem map_fst_columns (full : row.toArray.length = columns.length) :
    (columns.zip row.toArray).map (·.1) = columns :=
  List.map_fst_zip (Nat.le_of_eq full.symm)

/-- A record that keeps its columns has them as its keys. -/
theorem KeepsColumns.keys_eq (kept : KeepsColumns columns row) :
    (row.toRecord columns).map (·.1) = columns := by
  apply List.ext_getElem?
  intro i
  rcases Nat.lt_or_ge i columns.length with inside | outside
  · obtain ⟨j, -, here⟩ := kept.entry i columns[i] (List.getElem?_eq_getElem inside)
    rw [List.getElem?_map, here, List.getElem?_eq_getElem inside]
    rfl
  · rw [List.getElem?_eq_none outside, List.getElem?_eq_none]
    rw [List.length_map, kept.count]
    exact outside

/-- A record keeps the columns exactly if their names are apart. -/
theorem keepsColumns_iff_nodup (full : row.toArray.length = columns.length) :
    KeepsColumns columns row ↔ columns.Nodup := by
  constructor
  · intro kept
    rw [← kept.keys_eq]
    exact (Json.objectOf_holds _).1
  · intro once
    have record : row.toRecord columns = columns.zip row.toArray := by
      apply Json.objectOf_of_nodup
      rw [map_fst_columns full]
      exact once
    refine ⟨?_, fun i name here => ?_⟩
    · rw [record, List.length_zip, full, Nat.min_self]
    · obtain ⟨inside, -⟩ := List.getElem?_eq_some_iff.1 here
      have value := List.getElem?_eq_getElem (full ▸ inside)
      refine ⟨_, value, ?_⟩
      rw [record, List.getElem?_zip_eq_some]
      exact ⟨here, value⟩

theorem keys_toRecord (full : row.toArray.length = columns.length) :
    (row.toRecord columns).map (·.1) = columns.eraseDups := by
  rw [Row.toRecord, Json.keys_objectOf, map_fst_columns full]

/-- A record has under a name the value of the last column of that name. -/
theorem lookup?_toRecord_eq_some_iff (full : row.toArray.length = columns.length) {name : String}
    {j : Json} : Json.lookup? name (row.toRecord columns) = some j ↔ ∃ i : Nat,
      columns[i]? = some name ∧ row.toArray[i]? = some j ∧
      ∀ i', i < i' → columns[i']? ≠ some name := by
  rw [Row.toRecord, Json.lookup?_objectOf_eq_some_iff]
  simp only [List.getElem?_zip_eq_some, and_assoc]
  refine exists_congr fun i => and_congr_right fun _ => and_congr_right fun _ => ?_
  constructor
  · intro lastOne i' later here
    obtain ⟨inside, -⟩ := List.getElem?_eq_some_iff.1 here
    exact lastOne i' _ later (List.getElem?_zip_eq_some.2
      ⟨here, List.getElem?_eq_getElem (full ▸ inside)⟩)
  · intro lastOne i' j' later here
    exact lastOne i' later (List.getElem?_zip_eq_some.1 here).1

end Record

section Complete

variable {columns : List (Option String)} {rows : List (List Cell)} {result : Result}

/-- The columns of a complete result are named as those of the answer. -/
theorem Completes.columns_eq (complete : Completes columns rows result) :
    result.columns = columnNames columns := by
  apply List.ext_getElem?
  intro i
  cases here : columns[i]? with
  | none =>
    have outside := List.getElem?_eq_none_iff.1 here
    rw [List.getElem?_eq_none (complete.width ▸ outside), List.getElem?_eq_none]
    simpa [columnNames] using outside
  | some name? => rw [complete.name i name? here, getElem?_columnNames here]

theorem Completes.length_toArray (complete : Completes columns rows result) {r : Nat} {row : Row}
    (there : result.rows[r]? = some row) : row.toArray.length = result.columns.length := by
  rw [Row.toArray, List.length_map, complete.width]
  exact complete.full row (List.mem_of_getElem? there)

end Complete

/-- **A record has all columns exactly if no two of them have one name.** By position a row has a
value for each column. Its record has each name once, where it first stands among the columns, with
the value of the last column of that name. -/
theorem record_keeps_columns_iff {e : Engine} {c : Connection} {sql : String}
    {columns : List (Option String)} {rows : Rows} {result : Result} {r : Nat} {row : Row}
    (answer : e.query c.sent sql = .table columns rows)
    (made : (c.query e sql).value.1 = .ok result) (there : result.rows[r]? = some row) :
    result.records[r]? = some (.object (row.toRecord result.columns)) ∧
    (KeepsColumns result.columns row ↔ Distinct columns) ∧
    row.toArray.length = result.columns.length ∧
    (row.toRecord result.columns).map (·.1) = result.columns.eraseDups ∧
    ∀ name j, Json.lookup? name (row.toRecord result.columns) = some j ↔ ∃ i : Nat,
      result.columns[i]? = some name ∧ row.toArray[i]? = some j ∧
      ∀ i', i < i' → result.columns[i']? ≠ some name := by
  have complete := completes_of_query answer made
  have full := complete.length_toArray there
  refine ⟨?_, ?_, full, keys_toRecord full, fun name j => lookup?_toRecord_eq_some_iff full⟩
  · rw [Result.records, List.getElem?_map, there]
    rfl
  · rw [keepsColumns_iff_nodup full, complete.columns_eq, nodup_columnNames_iff]

/-- An engine that answers each query with one row. -/
def rowEngine (columns : List (Option String)) (cells : List Cell) : Engine where
  openFailure := none
  batch _ _ := none
  query _ _ := .table columns (.row cells .done)
  closeFailure _ := none

/-- The name that is made for the second column is not that of the first, so the record has both. -/
theorem unnamed_column_kept :
    KeepsColumns ["id", "column1"] ⟨[.integer 1, .integer 2]⟩ := by
  have distinct : Distinct [some "id", none] := by
    rw [← nodup_columnNames_iff]
    decide
  have made : ((⟨[]⟩ : Connection).query (rowEngine [some "id", none]
      [.integer .i32 1, .integer .i32 2]) "select id, 2 from a").value.1 =
      .ok ⟨["id", "column1"], [⟨[.integer 1, .integer 2]⟩]⟩ := by decide
  exact (record_keeps_columns_iff (r := 0) rfl made rfl).2.1.2 distinct

/-- Two tables that are joined have a column of one name: the record has the value of the second
where the first stands. -/
theorem joined_column_lost :
    ((⟨[]⟩ : Connection).query (rowEngine [some "id", some "name", some "id"]
      [.integer .i32 1, .text (Text.octets "a"), .integer .i32 2])
      "select * from a join b using (k)").value.1 =
      .ok ⟨["id", "name", "id"], [⟨[.integer 1, .text "a", .integer 2]⟩]⟩ ∧
    Row.toArray ⟨[.integer 1, .text "a", .integer 2]⟩ = [.integer 1, .string "a", .integer 2] ∧
    Row.toRecord ["id", "name", "id"] ⟨[.integer 1, .text "a", .integer 2]⟩ =
      [("id", .integer 2), ("name", .string "a")] ∧
    ¬KeepsColumns ["id", "name", "id"] ⟨[.integer 1, .text "a", .integer 2]⟩ := by
  refine ⟨rfl, rfl, rfl, fun kept => ?_⟩
  exact absurd kept.count (by decide)

end DataShelf.Query
