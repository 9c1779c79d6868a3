import DataShelf.Proofs.RecordColumns
import Mathlib

/-!
# Integers of cells

An integer that fits 64 bits with sign is shown as a number and any other as its numeral, so each is
read back as it was (`readInteger_shownInteger`). Cells show their integers so in all types but one:
an unsigned integer of 128 bits goes the way of the types that have no better form, and its text is
no numeral (`integer_cells_exact_iff`).
-/

namespace DataShelf.Query
set_option autoImplicit false

open Engine (Cell IntegerType Rows)

/-- An integer as a number if it fits, and as its numeral otherwise. -/
def shownInteger (n : Int) : Json :=
  if -2 ^ 63 ≤ n ∧ n < 2 ^ 63 then .integer n else .string (toString n)

/-- The integer that a number is, or a text that is a numeral. -/
def readInteger : Json → Option Int
  | .integer n => some n
  | .string s => s.toInt?
  | _ => none

theorem readInteger_shownInteger (n : Int) : readInteger (shownInteger n) = some n := by
  rw [shownInteger]
  split
  · rfl
  · exact Int.toInt?_repr n

/-- How an integer is shown where its type has no better form. -/
def hugeText (n : Int) : String := "UHugeInt(" ++ toString n ++ ")"

/-- A text that begins with a letter is no numeral. -/
theorem readInteger_hugeText (n : Int) : readInteger (.string (hugeText n)) = none := by
  have begins : (hugeText n).toList = 'U' :: ("HugeInt(" ++ toString n ++ ")").toList := by
    simp [hugeText]
  refine String.toInt?_eq_none ?_
  rw [← Bool.not_eq_true, String.isInt_iff]
  rintro (natural | ⟨t, signed, -⟩)
  · have member : 'U' ∈ (hugeText n).toList := begins ▸ List.mem_cons_self
    exact absurd ((String.isNat_iff.1 natural).2.1 'U' member) (by decide)
  · rw [signed, String.toList_append] at begins
    exact absurd (List.cons.inj begins).1 (by decide)

namespace Value

theorem toJson_ofInteger (n : Int) : (ofInteger n).toJson = shownInteger n := by
  rw [ofInteger, shownInteger]
  by_cases fits : -2 ^ 63 ≤ n ∧ n < 2 ^ 63
  · have same : (Int64.ofInt n).toInt = n := Int64.toInt_ofInt_of_le fits.1 fits.2
    rw [if_pos (fits64_iff.2 fits), if_pos fits, toJson, same]
  · rw [if_neg (mt fits64_iff.1 fits), if_neg fits, toJson]

/-- What a cell with an integer is read as is exact in all types but one. -/
theorem ofCell_integer_exact_iff {type : IntegerType} {n : Int} {value : Value}
    (mapped : ofCell (.integer type n) = .ok value) :
    (value.toJson = shownInteger n ↔ type ≠ .u128) ∧
    (readInteger value.toJson = some n ↔ type ≠ .u128) ∧
    (type = .u128 → value.toJson = .string (hugeText n) ∧ readInteger value.toJson = none) := by
  by_cases unsigned : type = .u128
  · subst unsigned
    obtain rfl : .text (hugeText n) = value := Except.ok.inj mapped
    have unread : readInteger (text (hugeText n)).toJson = none := readInteger_hugeText n
    refine ⟨⟨fun same => ?_, fun other => absurd rfl other⟩,
      ⟨fun same => ?_, fun other => absurd rfl other⟩, fun _ => ⟨rfl, unread⟩⟩
    · rw [same, readInteger_shownInteger] at unread
      cases unread
    · rw [unread] at same
      cases same
  · rw [ofCell_integer unsigned] at mapped
    obtain rfl := Except.ok.inj mapped
    rw [toJson_ofInteger]
    exact ⟨⟨fun _ => unsigned, fun _ => rfl⟩,
      ⟨fun _ => unsigned, fun _ => readInteger_shownInteger n⟩, fun same => absurd same unsigned⟩

end Value

/-- A query does not fail at a cell that has an integer. -/
theorem integer_cell_read {columns : List (Option String)} {rows : Rows} {r k : Nat}
    {cells : List Cell} {type : IntegerType} {n : Int} (fetched : rows.fetched[r]? = some cells)
    (cell : cells[k]? = some (.integer type n)) (message : String) :
    ¬Fails (.table columns rows) (.cell r k) message := by
  intro failed
  obtain ⟨cells', fetched', -, unread⟩ := fails_cell_iff.1 failed
  obtain rfl := Option.some.inj (fetched.symm.trans fetched')
  rcases readCell_eq_error_iff.1 unread with ⟨absent, -⟩ | unreadable
  · rw [cell] at absent
    cases absent
  · rw [cell] at unreadable
    cases unreadable

/-- **Integers are shown exactly in all types but one.** Where a row was fetched with an integer in a
column, the query does not fail for it, and a result has a value at that place, which is also that of
the record under the name of the column if no later one has the name. It is the integer as a number
if it fits 64 bits with sign and its numeral otherwise, which is read back as the integer, exactly if
the type is not that of unsigned integers of 128 bits. Those have a text that is no numeral, whatever
the integer. -/
theorem integer_cells_exact_iff {e : Engine} {c : Connection} {sql : String}
    {columns : List (Option String)} {rows : Rows} {r k : Nat} {cells : List Cell}
    {type : IntegerType} {n : Int} (answer : e.query c.sent sql = .table columns rows)
    (fetched : rows.fetched[r]? = some cells) (inside : k < columns.length)
    (cell : cells[k]? = some (.integer type n)) :
    (∀ message, ¬Fails (e.query c.sent sql) (.cell r k) message) ∧
    ∀ result, (c.query e sql).value.1 = .ok result →
      ∃ row j, result.rows[r]? = some row ∧ row.toArray[k]? = some j ∧
        (j = shownInteger n ↔ type ≠ .u128) ∧
        (readInteger j = some n ↔ type ≠ .u128) ∧
        (type = .u128 → j = .string (hugeText n) ∧ readInteger j = none) ∧
        ∀ name, result.columns[k]? = some name →
          (∀ k', k < k' → result.columns[k']? ≠ some name) →
          Json.lookup? name (row.toRecord result.columns) = some j := by
  refine ⟨?_, fun result made => ?_⟩
  · rw [answer]
    exact integer_cell_read fetched cell
  have complete := completes_of_query answer made
  obtain ⟨cell', row, value, cell_k, held, there, placed⟩ :=
    complete.value r k cells fetched inside
  obtain rfl := Option.some.inj (cell.symm.trans cell_k)
  have shown : row.toArray[k]? = some value.toJson := by
    rw [Row.toArray, List.getElem?_map, placed]
    rfl
  obtain ⟨exactly, read, text⟩ := Value.ofCell_integer_exact_iff held.read
  refine ⟨row, value.toJson, there, shown, exactly, read, text, fun name named lastOne => ?_⟩
  rw [lookup?_toRecord_eq_some_iff (complete.length_toArray there)]
  exact ⟨k, named, shown, lastOne⟩

/-- An integer of 128 bits with sign that does not fit 64 is read back. -/
theorem overflowing_integer_read :
    readInteger (.string "1267650600228229401496703205376") = some (2 ^ 100) := by
  have made : ((⟨[]⟩ : Connection).query (rowEngine [some "n"] [.integer .i128 (2 ^ 100)])
      "select 2::hugeint ** 100 as n").value.1 =
      .ok ⟨["n"], [⟨[.numeric "1267650600228229401496703205376"]⟩]⟩ := by decide
  obtain ⟨row, j, there, placed, -, read, -⟩ := (integer_cells_exact_iff (r := 0) (k := 0)
    (n := 2 ^ 100) rfl rfl (by decide) rfl).2 _ made
  obtain rfl := Option.some.inj there
  obtain rfl := Option.some.inj placed
  exact read.2 (by decide)

/-- An unsigned integer of 128 bits is neither a number nor a numeral, though it is small. -/
theorem unsigned_integer_unread :
    ((⟨[]⟩ : Connection).query (rowEngine [some "n"] [.integer .u128 7])
      "select 7::uhugeint as n").value.1 = .ok ⟨["n"], [⟨[.text "UHugeInt(7)"]⟩]⟩ ∧
    Row.toArray ⟨[.text "UHugeInt(7)"]⟩ = [.string "UHugeInt(7)"] ∧
    shownInteger 7 = .integer 7 ∧ readInteger (.string "UHugeInt(7)") = none := by
  have text : hugeText 7 = "UHugeInt(7)" := by decide
  exact ⟨by decide, rfl, rfl, text ▸ readInteger_hugeText 7⟩

end DataShelf.Query
