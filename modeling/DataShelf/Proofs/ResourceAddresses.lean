import DataShelf.Proofs.PercentCoding
import DataShelf.Server.ResourceUri
import Mathlib.Data.List.Basic

/-!
# Addresses lead back to what they are of

The address of a source, a table or a query is parsed as just that, if none of its parts is nothing
(`parse?_address`): marks and slashes are looked for in encoded text, which has no slash of its own,
so no name is taken for a mark. What is parsed from any address has no empty part
(`parts_of_parse?`). So an address that is accepted can be replaced by the one that its parts make
(`addresses_round_trip`).
-/

namespace DataShelf.Server.ResourceUri
set_option autoImplicit false

open Text (percentEncode percentDecode?)

/-! ### Patterns -/

/-- A pattern with the value of each name in its place, a name being what stands in braces. -/
def fill (value : String → String) (pattern : String) : String :=
  String.ofList (go none pattern.toList)
where
  /-- Goes on in a pattern, with the name read so far, in reverse, where a brace is open. -/
  go : Option (List Char) → List Char → List Char
    | none, [] => []
    | some name, [] => '\x7b' :: name.reverse
    | none, c :: cs => if c = '\x7b' then go (some []) cs else c :: go none cs
    | some name, c :: cs =>
      if c = '\x7d' then (value (String.ofList name.reverse)).toList ++ go none cs
      else go (some (c :: name)) cs

/-- The values of the names in the patterns: what is asked for, encoded. -/
def encoded (source table query : String) (name : String) : String :=
  percentEncode (if name = "source" then source else if name = "table" then table else query)

theorem fill_tablePattern (source table query : String) :
    fill (encoded source table query) tablePattern = ofTable source table := by
  have names : encoded source table query "source" = percentEncode source ∧
      encoded source table query "table" = percentEncode table := ⟨rfl, rfl⟩
  rw [← String.toList_inj]
  simp [fill, fill.go, tablePattern, ofTable, scheme, tableMark, names]

theorem fill_sqlPattern (source table query : String) :
    fill (encoded source table query) sqlPattern = ofSql query := by
  have name : encoded source table query "query" = percentEncode query := rfl
  rw [← String.toList_inj]
  simp [fill, fill.go, sqlPattern, ofSql, scheme, sqlMark, name]

/-! ### Parsing -/

/-- What follows a beginning is what the text goes on with. -/
theorem after?_eq_some_iff {beginning : String} {cs rest : List Char} :
    after? beginning cs = some rest ↔ cs = beginning.toList ++ rest := by
  rw [after?]
  generalize beginning.toList = front
  induction front generalizing cs with
  | nil => simp [after?.go]
  | cons b front ih =>
    cases cs with
    | nil => simp [after?.go]
    | cons c cs =>
      by_cases same : b = c
      · simp [after?.go, same, ih]
      · simp [after?.go, same, Ne.symm same]

theorem after?_append (beginning : String) (rest : List Char) :
    after? beginning (beginning.toList ++ rest) = some rest :=
  after?_eq_some_iff.2 rfl

/-- Where there is no slash a beginning with one does not stand. -/
theorem after?_eq_none {beginning : String} (cut : '/' ∈ beginning.toList) {cs : List Char}
    (whole : '/' ∉ cs) : after? beginning cs = none := by
  cases found : after? beginning cs with
  | none => rfl
  | some rest =>
    rw [after?_eq_some_iff.1 found] at whole
    exact absurd (List.mem_append_left rest cut) whole

theorem decode?_percentEncode (s : String) : decode? (percentEncode s).toList = some s := by
  rw [decode?, String.ofList_toList, Text.percentDecode?_percentEncode]

/-- What is decoded from something is something. -/
theorem decode?_ne_empty {cs : List Char} (filled : cs.isEmpty = false) : decode? cs ≠ some "" := by
  intro nothing
  have empty : String.ofList cs = "" := Text.percentDecode?_eq_empty_iff.1 nothing
  rw [String.ofList_eq_empty_iff.1 empty] at filled
  cases filled

/-- The address of a source leads to it, unless its name is empty. -/
theorem parse?_ofSource (name : String) :
    parse? (ofSource name) = if name = "" then none else some (.source name) := by
  have whole := Text.slash_notMem_percentEncode name
  have noTable : after? tableMark (percentEncode name).toList = none :=
    after?_eq_none (by decide) whole
  have noSql : after? sqlMark (percentEncode name).toList = none := after?_eq_none (by decide) whole
  rw [parse?, ofSource, String.toList_append, after?_append]
  simp [noTable, noSql, Text.percentEncode_eq_empty_iff, whole, decode?_percentEncode]

/-- Encoded names with a slash between lead to the table, unless one of them is empty. -/
theorem ofTablePath?_encoded (source table : String) :
    ofTablePath? ((percentEncode source).toList ++ '/' :: (percentEncode table).toList) =
      if source = "" ∨ table = "" then none else some (.table source table) := by
  have whole : ∀ c ∈ (percentEncode source).toList, (c != '/') = true := by
    intro c member
    exact bne_iff_ne.2 (Text.code_percentEncode member).2
  rw [ofTablePath?, List.takeWhile_append_of_pos whole, List.dropWhile_append_of_pos whole]
  simp [Text.percentEncode_eq_empty_iff, Text.slash_notMem_percentEncode, decode?_percentEncode]

/-- The address of a table leads to it, unless a name is empty. -/
theorem parse?_ofTable (source table : String) :
    parse? (ofTable source table) =
      if source = "" ∨ table = "" then none else some (.table source table) := by
  have text : (ofTable source table).toList = scheme.toList ++ (tableMark.toList ++
      ((percentEncode source).toList ++ '/' :: (percentEncode table).toList)) := by
    simp [ofTable]
  rw [parse?, text, after?_append]
  simp only [Option.bind_eq_bind, Option.bind_some, after?_append]
  exact ofTablePath?_encoded source table

/-- The address of a query leads to it, unless it is empty. -/
theorem parse?_ofSql (query : String) :
    parse? (ofSql query) = if query = "" then none else some (.sql query) := by
  have text : (ofSql query).toList =
      scheme.toList ++ (sqlMark.toList ++ (percentEncode query).toList) := by
    simp [ofSql]
  have noTable : after? tableMark (sqlMark.toList ++ (percentEncode query).toList) = none := by
    simp [after?, after?.go, tableMark, sqlMark]
  rw [parse?, text, after?_append]
  simp [noTable, after?_append, Text.percentEncode_eq_empty_iff, decode?_percentEncode]

/-! ### Addresses of any shape -/

/-- The names or the query that an address is made of. -/
def parts : ResourceUri → List String
  | .source name => [name]
  | .table outer inner => [outer, inner]
  | .sql text => [text]

/-- The address that leads to a resource. -/
def address : ResourceUri → String
  | .source name => ofSource name
  | .table outer inner => ofTable outer inner
  | .sql text => ofSql text

/-- An address is parsed as what it is of, unless a part of it is nothing. -/
theorem parse?_address (r : ResourceUri) :
    parse? r.address = if "" ∈ r.parts then none else some r := by
  cases r with
  | source name => simp [address, parts, parse?_ofSource, eq_comm]
  | table source table => simp [address, parts, parse?_ofTable, eq_comm]
  | sql query => simp [address, parts, parse?_ofSql, eq_comm]

/-- The names that lead to a table are not empty. -/
theorem parts_of_ofTablePath? {cs : List Char} {r : ResourceUri}
    (parsed : ofTablePath? cs = some r) : "" ∉ r.parts := by
  unfold ofTablePath? at parsed
  dsimp only at parsed
  split at parsed
  · cases parsed
  · split at parsed
    · cases parsed
    · next filled =>
      simp only [Bool.or_eq_true, not_or, Bool.not_eq_true] at filled
      obtain ⟨source, first, parsed⟩ := Option.bind_eq_some_iff.1 parsed
      obtain ⟨table, second, same⟩ := Option.bind_eq_some_iff.1 parsed
      obtain rfl := Option.some.inj same
      have outer : source ≠ "" := fun h => decode?_ne_empty filled.1.1 (h ▸ first)
      have inner : table ≠ "" := fun h => decode?_ne_empty filled.1.2 (h ▸ second)
      simp [parts, outer.symm, inner.symm]

/-- What an address is parsed as has no part that is nothing. -/
theorem parts_of_parse? {uri : String} {r : ResourceUri} (parsed : parse? uri = some r) :
    "" ∉ r.parts := by
  obtain ⟨rest, -, parsed⟩ := Option.bind_eq_some_iff.1 parsed
  split at parsed
  · exact parts_of_ofTablePath? parsed
  · split at parsed
    · split at parsed
      · cases parsed
      · next filled =>
        obtain ⟨query, decoded, rfl⟩ := Option.map_eq_some_iff.1 parsed
        have other : query ≠ "" := fun h => decode?_ne_empty (by simpa using filled) (h ▸ decoded)
        simp [parts, other.symm]
    · split at parsed
      · cases parsed
      · next filled =>
        simp only [Bool.or_eq_true, not_or, Bool.not_eq_true] at filled
        obtain ⟨name, decoded, rfl⟩ := Option.map_eq_some_iff.1 parsed
        have other : name ≠ "" := fun h => decode?_ne_empty filled.1 (h ▸ decoded)
        simp [parts, other.symm]

/-- **Addresses.** The address of a source is parsed as that source, whatever its name is, and the
filled patterns of tables and queries as that table and that query; only where a part is nothing the
address is refused, and none is taken for one of another shape. What any address is parsed as has no
part that is nothing, and its own address is parsed as the same. -/
theorem addresses_round_trip :
    (∀ source, parse? (ofSource source) = if source = "" then none else some (.source source)) ∧
    (∀ source table query, parse? (fill (encoded source table query) tablePattern) =
      if source = "" ∨ table = "" then none else some (.table source table)) ∧
    (∀ source table query, parse? (fill (encoded source table query) sqlPattern) =
      if query = "" then none else some (.sql query)) ∧
    ∀ uri r, parse? uri = some r → "" ∉ r.parts ∧ parse? r.address = some r := by
  refine ⟨parse?_ofSource, fun source table query => ?_, fun source table query => ?_,
    fun uri r parsed => ?_⟩
  · rw [fill_tablePattern, parse?_ofTable]
  · rw [fill_sqlPattern, parse?_ofSql]
  · have filled := parts_of_parse? parsed
    exact ⟨filled, by rw [parse?_address, if_neg filled]⟩

end DataShelf.Server.ResourceUri
