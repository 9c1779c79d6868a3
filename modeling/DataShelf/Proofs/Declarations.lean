import DataShelf.Proofs.NameMap
import DataShelf.Proofs.ObjectKeys
import DataShelf.Proofs.RenderedPaths

/-!
# What a manifest declares

A manifest of the right shape (`Manifest.Shaped`) declares tables in one of two ways, and rendered
files go before sources (`Manifest.Declares`). What is decoded from it are the tables that it
declares (`Manifest.declared_of_shaped`). Neither the order of keys nor how often a text stands in a
list makes a difference to that (`Manifest.declares_of_rearranged`), nor does anything besides
rendered files where there are some (`Manifest.declares_of_rendered`).
-/

namespace DataShelf
set_option autoImplicit false

namespace Json

/-! ### Values rearranged -/

/-- The same value, but for the order of the keys of objects and for the order in which, and how
often, texts stand in lists. -/
inductive Rearranged : Json → Json → Prop
  | refl (j : Json) : Rearranged j j
  | texts {items items' : List String} (same : ∀ s, s ∈ items ↔ s ∈ items') :
      Rearranged (Json.texts items) (Json.texts items')
  | object {fields fields' : Fields}
      (keys : ∀ key, lookup? key fields = none ↔ lookup? key fields' = none)
      (inside : ∀ key j j', lookup? key fields = some j → lookup? key fields' = some j' →
        Rearranged j j') : Rearranged (.object fields) (.object fields')

/-- A key is looked up by the first member that has it. -/
theorem lookup?_eq_find? (key : String) (fields : Fields) :
    lookup? key fields = (fields.find? fun e => e.1 == key).map (·.2) := by
  induction fields with
  | nil => rfl
  | cons first rest ih =>
    obtain ⟨k, v⟩ := first
    by_cases same : k = key <;> simp [lookup?, same, ih]

theorem lookup?_of_fresh {key : String} {fields : Fields} (fresh : key ∉ fields.map (·.1)) :
    lookup? key fields = none := by
  rw [lookup?_eq_find?, Option.map_eq_none_iff, List.find?_eq_none]
  exact fun e member same => fresh (List.mem_map.2 ⟨e, member, by simpa using same⟩)

theorem mem_of_lookup? {key : String} {fields : Fields} {j : Json}
    (found : lookup? key fields = some j) : (key, j) ∈ fields := by
  rw [lookup?_eq_find?] at found
  obtain ⟨⟨k, v⟩, first, rfl⟩ := Option.map_eq_some_iff.1 found
  obtain rfl : k = key := by simpa using List.find?_some first
  exact List.mem_of_find?_eq_some first

theorem texts_injective {items items' : List String} (same : texts items = texts items') :
    items = items' := by
  have strings : items.map Json.string = items'.map Json.string := by
    injection same
  exact List.map_injective_iff.2 (fun s s' h => by injection h) strings

/-- Fields in another order. -/
theorem Rearranged.of_perm {fields fields' : Fields} (once : (fields.map (·.1)).Nodup)
    (order : fields.Perm fields') : Rearranged (.object fields) (.object fields') := by
  have once' : (fields'.map (·.1)).Nodup := (order.map _).nodup_iff.1 once
  have same (key : String) : lookup? key fields = lookup? key fields' := Option.ext fun j => by
    rw [lookup?_eq_some_iff once, lookup?_eq_some_iff once', order.mem_iff]
  refine .object (fun key => by rw [same]) fun key j j' found found' => ?_
  obtain rfl : j = j' := Option.some.inj (found.symm.trans ((same key).trans found'))
  exact .refl j

theorem Rearranged.symm {j j' : Json} (h : j.Rearranged j') : j'.Rearranged j := by
  induction h with
  | refl j => exact .refl j
  | texts same => exact .texts fun s => (same s).symm
  | object keys _ ih =>
    exact .object (fun key => (keys key).symm) fun key j j' found found' => ih key j' j found' found

/-- Rearranged values have rearranged values under the same keys. -/
theorem Rearranged.field? {j j' a : Json} (h : j.Rearranged j') {key : String}
    (found : j.field? key = some a) : ∃ a', j'.field? key = some a' ∧ a.Rearranged a' := by
  cases h with
  | refl => exact ⟨a, found, .refl a⟩
  | texts same => cases found
  | @object fields fields' keys inside =>
    cases found' : lookup? key fields' with
    | none => exact absurd ((keys key).2 found') (by simp [show lookup? key fields = some a from found])
    | some a' => exact ⟨a', found', inside key a a' found found'⟩

theorem Rearranged.field?_none {j j' : Json} (h : j.Rearranged j') {key : String}
    (missing : j.field? key = none) : j'.field? key = none := by
  cases found : j'.field? key with
  | none => rfl
  | some a' =>
    obtain ⟨a, known, -⟩ := h.symm.field? found
    simp [missing] at known

theorem Rearranged.isNull {j j' : Json} (h : j.Rearranged j') : j'.isNull = j.isNull := by
  cases h <;> rfl

/-- Only an object is an object rearranged. -/
theorem Rearranged.of_object {fields : Fields} {j : Json} (h : Rearranged (.object fields) j) :
    ∃ fields', j = .object fields' := by
  generalize whole : Json.object fields = a at h
  cases h with
  | refl => exact ⟨fields, whole.symm⟩
  | texts same => cases whole
  | object keys inside => exact ⟨_, rfl⟩

/-- Only a list with the same texts is a list of texts rearranged. -/
theorem Rearranged.of_texts {items : List String} {j : Json} (h : (Json.texts items).Rearranged j) :
    ∃ items', j = Json.texts items' ∧ ∀ s, s ∈ items ↔ s ∈ items' := by
  generalize whole : Json.texts items = a at h
  cases h with
  | refl => exact ⟨items, whole.symm, fun s => .rfl⟩
  | @texts items₁ items' same =>
    obtain rfl := texts_injective whole
    exact ⟨items', rfl, same⟩
  | object keys inside => cases whole

/-! ### Decoding -/

/-- A traversal that succeeds at each item is a map. -/
theorem mapM_eq_ok {ε α β : Type} {f : α → Except ε β} {g : α → β} {l : List α}
    (each : ∀ a ∈ l, f a = .ok (g a)) : l.mapM f = .ok (l.map g) := by
  induction l with
  | nil => rfl
  | cons a l ih =>
    obtain ⟨here, later⟩ := List.forall_mem_cons.1 each
    rw [List.mapM_cons, here, ih later]
    rfl

/-- Lists of texts are decoded. -/
theorem ofJson_texts (items : List String) :
    (Decoder.list Decoder.string).ofJson (texts items) = .ok items := by
  have each : (items.map Json.string).mapM Decoder.string.ofJson = .ok items := by
    induction items with
    | nil => rfl
    | cons s items ih =>
      have here : Decoder.string.ofJson (.string s) = .ok s := rfl
      rw [List.map_cons, List.mapM_cons, here, ih]
      rfl
  exact each

theorem ofJson_dict {α : Type} {d : Decoder α} {fields : Fields} {g : Json → α}
    (each : ∀ e ∈ fields, d.ofJson e.2 = .ok (g e.2)) :
    (Decoder.dict d).ofJson (.object fields) = .ok (fields.map fun e => (e.1, g e.2)) := by
  refine mapM_eq_ok fun e member => ?_
  rw [each e member]
  rfl

/-- What a field of an object changes in a record. Keys that are no fields change nothing. -/
def Layout.takeField {σ : Type} (l : Layout σ) (record : σ) (pair : String × Json) :
    Except Mismatch σ :=
  match l.field? pair.1 with
  | some f => (f.decoder.ofJson pair.2).map fun change => change record
  | none => .ok record

/-- A record is taken field by field, and nothing that must be there may be missing. -/
theorem Layout.ofJson_object {σ : Type} (l : Layout σ) (fields : Fields) :
    l.decoder.ofJson (.object fields) = fields.foldlM l.takeField l.blank >>= fun record =>
      match l.missing? (fields.map (·.1)) with
      | some f => .error (.missingField f.name)
      | none => .ok record :=
  rfl

section Parts

variable {σ β : Type} (l : Layout σ) (part : σ → β) {name : String} {given : Json → β}

/-- Where only the field of a name makes a part of a record, fields leave what is made of the value
under that name. -/
theorem Layout.part_of_fields
    (own : ∀ j record taken, l.takeField record (name, j) = .ok taken → part taken = given j)
    (besides : ∀ key j record taken, key ≠ name → l.takeField record (key, j) = .ok taken →
      part taken = part record)
    {fields : Fields} (once : (fields.map (·.1)).Nodup) {record taken : σ}
    (folded : fields.foldlM l.takeField record = .ok taken) :
    part taken = match lookup? name fields with
      | some j => given j
      | none => part record := by
  induction fields generalizing record with
  | nil =>
    cases folded
    rfl
  | cons first rest ih =>
    obtain ⟨key, j⟩ := first
    obtain ⟨fresh, later⟩ := List.nodup_cons.1 once
    rw [List.foldlM_cons] at folded
    obtain ⟨between, here, folded⟩ := bind_eq_ok_iff.1 folded
    rw [lookup?, ih later folded]
    by_cases same : key = name
    · subst same
      rw [lookup?_of_fresh fresh, if_pos rfl]
      exact own j record between here
    · rw [if_neg same, besides key j record between same here]

/-- A part of a record that is set by one field only is what the member of that field gives. -/
theorem Layout.part_of_object
    (own : ∀ j record taken, l.takeField record (name, j) = .ok taken → part taken = given j)
    (besides : ∀ key j record taken, key ≠ name → l.takeField record (key, j) = .ok taken →
      part taken = part record)
    {fields : Fields} (once : (fields.map (·.1)).Nodup) {record : σ}
    (decoded : l.decoder.ofJson (.object fields) = .ok record) :
    part record = match lookup? name fields with
      | some j => given j
      | none => part l.blank := by
  rw [Layout.ofJson_object] at decoded
  obtain ⟨taken, folded, same⟩ := bind_eq_ok_iff.1 decoded
  split at same
  · cases same
  · obtain rfl := Except.ok.inj same
    exact l.part_of_fields part own besides once folded

end Parts

section Holds

variable {σ : Type} {P : σ → Prop} (l : Layout σ) {record taken : σ}

/-- What holds of a record holds of it after members are taken that keep it. -/
theorem Layout.foldlM_takeField_holds {fields : Fields}
    (each : ∀ f ∈ l.fields, ∀ e ∈ fields, ∀ change, f.decoder.ofJson e.2 = .ok change →
      ∀ record, P record → P (change record))
    (held : P record) (folded : fields.foldlM l.takeField record = .ok taken) : P taken := by
  induction fields generalizing record with
  | nil =>
    cases folded
    exact held
  | cons e rest ih =>
    obtain ⟨between, step, later⟩ := bind_eq_ok_iff.1 folded
    have behind := fun f known e member => each f known e (List.mem_cons_of_mem _ member)
    refine ih behind ?_ later
    unfold Layout.takeField at step
    split at step
    · next f known =>
      obtain ⟨change, here, rfl⟩ := map_eq_ok_iff.1 step
      exact each f (List.mem_of_find?_eq_some known) e List.mem_cons_self change here record held
    · exact Except.ok.inj step ▸ held

/-- What holds of a record holds of it after the items of a list are taken that keep it. -/
theorem Layout.ofItems_holds {fields : List (Field σ)} {items : List Json} {index : Nat}
    (each : ∀ f ∈ fields, ∀ part ∈ items, ∀ change, f.decoder.ofJson part = .ok change →
      ∀ record, P record → P (change record))
    (held : P record) (read : l.ofItems fields index record items = .ok taken) : P taken := by
  induction fields generalizing items index record with
  | nil =>
    rw [Layout.ofItems] at read
    split at read
    · exact Except.ok.inj read ▸ held
    · cases read
  | cons f fields ih =>
    cases items with
    | nil =>
      rw [Layout.ofItems] at read
      split at read
      · exact ih (fun _ _ part member => absurd member List.not_mem_nil) held read
      · cases read
    | cons part rest =>
      rw [Layout.ofItems] at read
      obtain ⟨change, here, later⟩ := bind_eq_ok_iff.1 read
      have behind := fun f known part member =>
        each f (List.mem_cons_of_mem _ known) part (List.mem_cons_of_mem _ member)
      exact ih behind
        (each f List.mem_cons_self part List.mem_cons_self change here record held) later

/-- What the blank record has, and every part of a value leaves a record, what is decoded has. -/
theorem Layout.ofJson_holds (blank : P l.blank) {j : Json}
    (each : ∀ f ∈ l.fields, ∀ part ∈ j.parts, ∀ change, f.decoder.ofJson part = .ok change →
      ∀ record, P record → P (change record))
    (decoded : l.decoder.ofJson j = .ok record) : P record := by
  cases j with
  | object fields =>
    rw [Layout.ofJson_object] at decoded
    obtain ⟨taken, folded, same⟩ := bind_eq_ok_iff.1 decoded
    have held : P taken := by
      refine l.foldlM_takeField_holds (fun f known e member => ?_) blank folded
      exact each f known e.2 (List.mem_map.2 ⟨e, member, rfl⟩)
    split at same
    · cases same
    · exact Except.ok.inj same ▸ held
  | array items => exact l.ofItems_holds each blank decoded
  | _ => cases decoded

end Holds

/-- The texts in a list of texts. -/
def textsOf : Json → List String
  | .array items => items.filterMap fun
    | .string s => some s
    | _ => none
  | _ => []

@[simp] theorem textsOf_texts (items : List String) : textsOf (texts items) = items := by
  simp [textsOf, texts, List.filterMap_map]

end Json

namespace Catalog

/-- The map of what is made of the fields of an object has it under their keys. -/
theorem get?_ofFields {α : Type} {fields : Json.Fields} (once : (fields.map (·.1)).Nodup)
    (g : Json → α) (key : String) :
    (NameMap.ofEntries (fields.map fun e => (e.1, g e.2))).get? key =
      (Json.lookup? key fields).map g := by
  have keys : ((fields.map fun e => (e.1, g e.2)).map (·.1)).Nodup := by
    simpa [Function.comp_def] using once
  rw [NameMap.get?_ofEntries keys, List.find?_map, Json.lookup?_eq_find?, Option.map_map,
    Option.map_map]
  rfl

namespace Manifest

/-! ### Shapes -/

/-- The key of the tables of a declared source. -/
def tablesKey : String := "tables"

/-- What stands for a source: an object with an object of tables, or with none. -/
def IsSource (j : Json) : Prop :=
  ∃ fields, j = .object fields ∧
    (Json.lookup? tablesKey fields = none ∨
      ∃ tables, Json.lookup? tablesKey fields = some (.object tables))

/-- A manifest with an object of lists of texts as rendered files, or with no rendered files and an
object of sources. -/
inductive Shaped (manifest : Json) : Prop
  | rendered {files : Json.Fields} (here : manifest.field? renderedKey = some (.object files))
      (lists : ∀ e ∈ files, ∃ paths, e.2 = Json.texts paths)
  | sources {sources : Json.Fields} (bare : key? manifest renderedKey = none)
      (here : manifest.field? sourcesKey = some (.object sources)) (each : ∀ e ∈ sources, IsSource e.2)

/-- A manifest declares a table of a source: by a rendered path under the source that names it, or,
where there are no rendered files, as a key of the tables of the source. -/
inductive Declares (manifest : Json) (source table : String) : Prop
  | rendered {files : Json.Fields} {paths : List String} {path : String}
      (here : manifest.field? renderedKey = some (.object files))
      (listed : Json.lookup? source files = some (Json.texts paths)) (member : path ∈ paths)
      (names : NamesTable path table)
  | sources {sources fields tables : Json.Fields} (bare : key? manifest renderedKey = none)
      (here : manifest.field? sourcesKey = some (.object sources))
      (known : Json.lookup? source sources = some (.object fields))
      (inside : Json.lookup? tablesKey fields = some (.object tables))
      (member : (Json.lookup? table tables).isSome)

theorem key?_of_object {manifest : Json} {key : String} {fields : Json.Fields}
    (here : manifest.field? key = some (.object fields)) :
    key? manifest key = some (.object fields) := by
  rw [key?, here]
  rfl

/-- What a manifest without rendered files declares stands under its sources. -/
theorem declares_iff_of_sources {manifest : Json} {sources : Json.Fields}
    (bare : key? manifest renderedKey = none)
    (here : manifest.field? sourcesKey = some (.object sources)) {source table : String} :
    Declares manifest source table ↔ ∃ fields tables,
      Json.lookup? source sources = some (.object fields) ∧
      Json.lookup? tablesKey fields = some (.object tables) ∧ (Json.lookup? table tables).isSome := by
  constructor
  · rintro (⟨there, -, -, -⟩ | @⟨_, fields, tables, -, there, known, inside, member⟩)
    · cases (key?_of_object there).symm.trans bare
    · obtain rfl := Json.object.inj (Option.some.inj (here.symm.trans there))
      exact ⟨fields, tables, known, inside, member⟩
  · rintro ⟨fields, tables, known, inside, member⟩
    exact .sources bare here known inside member

/-- A manifest of the right shape is an object. -/
theorem Shaped.exists_object {manifest : Json} (h : Shaped manifest) :
    ∃ fields, manifest = .object fields := by
  obtain ⟨here, -⟩ | ⟨-, here, -⟩ := h <;> cases manifest <;>
    first
    | exact ⟨_, rfl⟩
    | cases here

/-! ### What is decoded -/

/-- The tables in what stands for a source. -/
def tablesOf (j : Json) : Declared :=
  ⟨match j.field? tablesKey with
    | some (.object tables) => tables
    | _ => []⟩

theorem takeField_other {key : String} (other : key ≠ tablesKey) (declared : Declared) (j : Json) :
    Declared.layout.takeField declared (key, j) = .ok declared := by
  have unknown : Declared.layout.field? key = none := by
    simpa [Json.Layout.field?, Declared.layout, Json.Field.defaulted, tablesKey] using Ne.symm other
  rw [Json.Layout.takeField, unknown]

/-- The tables of a source are the keys of an object. -/
theorem takeField_tables (declared : Declared) (tables : Json.Fields) :
    Declared.layout.takeField declared (tablesKey, .object tables) = .ok ⟨tables⟩ := by
  have whole : (Json.Decoder.dict .any).ofJson (.object tables) = .ok tables := by
    have each : ∀ e ∈ tables, Json.Decoder.any.ofJson e.2 = .ok (id e.2) := fun _ _ => rfl
    simpa using Json.ofJson_dict each
  change (((Json.Decoder.dict .any).ofJson (.object tables)).map _).map _ = _
  rw [whole]
  rfl

/-- Of the fields of a source only its tables count. -/
theorem foldlM_takeField {fields : Json.Fields} (once : (fields.map (·.1)).Nodup)
    (declared : Declared) :
    (Json.lookup? tablesKey fields = none →
      fields.foldlM Declared.layout.takeField declared = .ok declared) ∧
    ∀ tables, Json.lookup? tablesKey fields = some (.object tables) →
      fields.foldlM Declared.layout.takeField declared = .ok ⟨tables⟩ := by
  induction fields generalizing declared with
  | nil => exact ⟨fun _ => rfl, fun tables found => by cases found⟩
  | cons first rest ih =>
    obtain ⟨key, j⟩ := first
    obtain ⟨fresh, later⟩ := List.nodup_cons.1 once
    rw [List.foldlM_cons, Json.lookup?]
    by_cases here : key = tablesKey
    · subst here
      rw [if_pos rfl]
      refine ⟨fun missing => (by cases missing), ?_⟩
      rintro tables ⟨⟩
      rw [takeField_tables]
      exact (ih later _).1 (Json.lookup?_of_fresh fresh)
    · rw [if_neg here, takeField_other here]
      exact ih later declared

/-- A source is decoded to the tables that it declares. -/
theorem ofJson_declared {j : Json} (source : IsSource j) (once : j.KeysOnce) :
    Declared.layout.decoder.ofJson j = .ok (tablesOf j) := by
  obtain ⟨fields, rfl, tables⟩ := source
  cases once with
  | flat flat => cases flat
  | object once inside =>
    have folded : fields.foldlM Declared.layout.takeField Declared.layout.blank =
        .ok (tablesOf (.object fields)) := by
      rcases tables with missing | ⟨tables, found⟩
      · rw [(foldlM_takeField once _).1 missing, tablesOf, Json.field?, missing]
        rfl
      · rw [(foldlM_takeField once _).2 tables found, tablesOf, Json.field?, found]
    rw [Json.Layout.ofJson_object, folded]
    rfl

/-- Rendered files are decoded to the tables that their paths name, for each source. -/
theorem ofJson_rendered {files : Json.Fields} (lists : ∀ e ∈ files, ∃ paths, e.2 = Json.texts paths) :
    renderedTables (.object files) =
      .ok (.ofEntries (files.map fun e => (e.1, (Json.textsOf e.2).filterMap tableOf?))) := by
  have each : ∀ e ∈ files, (Json.Decoder.list .string).ofJson e.2 = .ok (Json.textsOf e.2) := by
    intro e member
    obtain ⟨paths, same⟩ := lists e member
    rw [same, Json.ofJson_texts, Json.textsOf_texts]
  rw [renderedTables, Json.ofJson_dict each]
  simp [Except.map, Function.comp_def]

/-- Sources are decoded to the tables that each of them declares. -/
theorem ofJson_sources {sources : Json.Fields} (each : ∀ e ∈ sources, IsSource e.2)
    (inside : ∀ e ∈ sources, e.2.KeysOnce) :
    sourceTables (.object sources) =
      .ok (.ofEntries (sources.map fun e => (e.1, (NameMap.ofEntries (tablesOf e.2).tables).names))) := by
  have decoded : ∀ e ∈ sources, Declared.layout.decoder.ofJson e.2 = .ok (tablesOf e.2) :=
    fun e member => ofJson_declared (each e member) (inside e member)
  rw [sourceTables, Json.ofJson_dict decoded]
  simp [Except.map, Function.comp_def]

/-- What is decoded from a manifest of the right shape are the tables that it declares. -/
theorem declared_of_shaped {manifest : Json} (shaped : Shaped manifest) (once : manifest.KeysOnce) :
    ∃ declared, (declaredTables? manifest).value = some declared ∧
      ∀ source table, (∃ tables, declared.get? source = some tables ∧ table ∈ tables) ↔
        Declares manifest source table := by
  cases shaped with
  | @rendered files here lists =>
    have keys := (once.field? here).fields.1
    refine ⟨.ofEntries (files.map fun e => (e.1, (Json.textsOf e.2).filterMap tableOf?)), ?_,
      fun source table => ?_⟩
    · simp only [declaredTables?, key?_of_object here, ofJson_rendered lists]
      rfl
    rw [get?_ofFields keys fun j => (Json.textsOf j).filterMap tableOf?]
    constructor
    · rintro ⟨_, found, member⟩
      obtain ⟨j, listed, rfl⟩ := Option.map_eq_some_iff.1 found
      obtain ⟨path, given, names⟩ := List.mem_filterMap.1 member
      obtain ⟨paths, rfl⟩ := lists _ ((Json.lookup?_eq_some_iff keys).1 listed)
      rw [Json.textsOf_texts] at given
      exact .rendered here listed given (tableOf?_eq_some_iff.1 names)
    · rintro (⟨here', listed, given, names⟩ | ⟨bare, -, -, -, -⟩)
      · obtain rfl : files = _ := by simpa [here] using here'
        rw [listed]
        refine ⟨_, rfl, List.mem_filterMap.2 ⟨_, ?_, tableOf?_eq_some_iff.2 names⟩⟩
        rwa [Json.textsOf_texts]
      · rw [key?_of_object here] at bare
        cases bare
  | @sources sources bare here each =>
    obtain ⟨keys, inside⟩ := (once.field? here).fields
    refine ⟨.ofEntries (sources.map fun e =>
      (e.1, (NameMap.ofEntries (tablesOf e.2).tables).names)), ?_, fun source table => ?_⟩
    · simp only [declaredTables?, bare, key?_of_object here, ofJson_sources each inside]
      rfl
    rw [get?_ofFields keys fun j => (NameMap.ofEntries (tablesOf j).tables).names]
    have named {tables : Json.Fields} (once : (tables.map (·.1)).Nodup) :
        table ∈ (NameMap.ofEntries tables).names ↔ (Json.lookup? table tables).isSome := by
      rw [NameMap.mem_names_iff, NameMap.get?_ofEntries once, Json.lookup?_eq_find?]
    constructor
    · rintro ⟨_, found, member⟩
      obtain ⟨j, known, rfl⟩ := Option.map_eq_some_iff.1 found
      have entry := (Json.lookup?_eq_some_iff keys).1 known
      obtain ⟨fields, rfl, missing | ⟨tables, listed⟩⟩ := each _ entry
      · simp [tablesOf, Json.field?, missing, NameMap.ofEntries, NameMap.names, NameMap.empty]
          at member
      · have once' := ((inside _ entry).field? listed).fields.1
        simp only [tablesOf, Json.field?, listed] at member
        exact .sources bare here known listed ((named once').1 member)
    · rintro (⟨rendered, -, -, -⟩ | ⟨-, here', known, listed, member⟩)
      · rw [key?_of_object rendered] at bare
        cases bare
      · obtain rfl : sources = _ := by simpa [here] using here'
        have once' := ((inside _ ((Json.lookup?_eq_some_iff keys).1 known)).field? listed).fields.1
        rw [known]
        refine ⟨_, rfl, ?_⟩
        simp only [tablesOf, Json.field?, listed]
        exact (named once').2 member

/-! ### Manifests that say the same -/

section Rearranged

variable {manifest manifest' : Json}

theorem key?_eq_none_iff {key : String} : key? manifest key = none ↔
    ∀ j, manifest.field? key = some j → j.isNull := by
  rw [key?, Option.filter_eq_none_iff]
  simp

theorem key?_none_of_rearranged (same : manifest.Rearranged manifest') {key : String}
    (bare : key? manifest key = none) : key? manifest' key = none := by
  rw [key?_eq_none_iff] at bare ⊢
  intro j' found'
  obtain ⟨j, found, inner⟩ := same.symm.field? found'
  rw [← inner.isNull]
  exact bare j found

/-- A source that is rearranged is one. -/
theorem isSource_of_rearranged {j j' : Json} (same : j.Rearranged j') (source : IsSource j) :
    IsSource j' := by
  obtain ⟨fields, rfl, tables⟩ := source
  obtain ⟨fields', rfl⟩ := same.of_object
  refine ⟨fields', rfl, tables.imp (fun missing => same.field?_none missing) ?_⟩
  rintro ⟨tables, found⟩
  obtain ⟨_, found', inner⟩ := same.field? found
  obtain ⟨tables', rfl⟩ := inner.of_object
  exact ⟨tables', found'⟩

/-- A manifest rearranged keeps its shape. -/
theorem shaped_of_rearranged (same : manifest.Rearranged manifest') (once : manifest'.KeysOnce)
    (shaped : Shaped manifest) : Shaped manifest' := by
  cases shaped with
  | rendered here lists =>
    obtain ⟨_, here', inner⟩ := same.field? here
    obtain ⟨files', rfl⟩ := inner.of_object
    refine .rendered here' fun e' member => ?_
    have listed := (Json.lookup?_eq_some_iff (once.field? here').fields.1).2 member
    obtain ⟨j, found, alike⟩ := inner.symm.field? listed
    obtain ⟨paths, rfl⟩ : ∃ paths, j = Json.texts paths := lists _ (Json.mem_of_lookup? found)
    obtain ⟨paths', texts, -⟩ := alike.symm.of_texts
    exact ⟨paths', texts⟩
  | sources bare here each =>
    obtain ⟨_, here', inner⟩ := same.field? here
    obtain ⟨sources', rfl⟩ := inner.of_object
    refine .sources (key?_none_of_rearranged same bare) here' fun e' member => ?_
    have listed := (Json.lookup?_eq_some_iff (once.field? here').fields.1).2 member
    obtain ⟨j, found, alike⟩ := inner.symm.field? listed
    exact isSource_of_rearranged alike.symm (each _ (Json.mem_of_lookup? found))

/-- A manifest rearranged declares the same. -/
theorem declares_of_rearranged (same : manifest.Rearranged manifest') {source table : String}
    (declares : Declares manifest source table) : Declares manifest' source table := by
  cases declares with
  | rendered here listed member names =>
    obtain ⟨_, here', inner⟩ := same.field? here
    obtain ⟨files', rfl⟩ := inner.of_object
    obtain ⟨_, listed', texts⟩ := inner.field? listed
    obtain ⟨paths', rfl, alike⟩ := texts.of_texts
    exact .rendered here' listed' ((alike _).1 member) names
  | sources bare here known inside member =>
    obtain ⟨_, here', inner⟩ := same.field? here
    obtain ⟨sources', rfl⟩ := inner.of_object
    obtain ⟨_, known', source⟩ := inner.field? known
    obtain ⟨fields', rfl⟩ := source.of_object
    obtain ⟨_, inside', tables⟩ := source.field? inside
    obtain ⟨tables', rfl⟩ := tables.of_object
    obtain ⟨j, found⟩ := Option.isSome_iff_exists.1 member
    obtain ⟨j', found', -⟩ := tables.field? found
    exact .sources (key?_none_of_rearranged same bare) here' known' inside'
      (Option.isSome_iff_exists.2 ⟨j', found'⟩)

end Rearranged

/-- Where there are rendered files, nothing else in a manifest counts. -/
theorem of_rendered {manifest manifest' : Json} (filled : (key? manifest renderedKey).isSome)
    (same : key? manifest' renderedKey = key? manifest renderedKey) :
    (Shaped manifest → Shaped manifest') ∧
    ∀ source table, Declares manifest source table → Declares manifest' source table := by
  have moved {files : Json.Fields} (here : manifest.field? renderedKey = some (.object files)) :
      manifest'.field? renderedKey = some (.object files) := by
    rw [key?_of_object here, key?] at same
    exact (Option.filter_eq_some_iff.1 same).1
  have unlike (bare : key? manifest renderedKey = none) : False := by simp [bare] at filled
  constructor
  · rintro (⟨here, lists⟩ | ⟨bare, -, -⟩)
    · exact .rendered (moved here) lists
    · exact (unlike bare).elim
  · rintro source table (⟨here, listed, member, names⟩ | ⟨bare, -, -, -, -⟩)
    · exact .rendered (moved here) listed member names
    · exact (unlike bare).elim

end Manifest
end Catalog
end DataShelf
