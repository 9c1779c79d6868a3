import DataShelf.Catalog.Schema
import DataShelf.Proofs.Declarations
import DataShelf.Proofs.TextDecoding

/-!
# Fields that schema files describe

A field is described by an object with a name and a type that are texts (`IsField`). It is shown
with the members of that object, all of them and name and type in front (`shown`, `arranged_perm`). A
text is decoded only if it spells a list of such objects that is not too deep
(`describes_of_decodeSchema`), and where no object repeats a key it is decoded and shown member by
member as it was written (`decodeSchema_of_describes`). So the fields of a table tell what the contents
of its schema file say (`Echoes`, `Described`).
-/

namespace DataShelf
set_option autoImplicit false

namespace Json

/-! ### Members in another order -/

/-- Members with name and type in front, the others in their order. -/
def arranged (fields : Fields) : Fields :=
  fields.filter (·.1 == "name") ++ fields.filter (·.1 == "type") ++
    fields.filter fun e => e.1 != "name" && e.1 != "type"

/-- Arranging members changes their order and nothing else. -/
theorem arranged_perm (fields : Fields) : (arranged fields).Perm fields := by
  have outer := List.filter_append_perm (fun e : String × Json => e.1 == "name") fields
  have inner := List.filter_append_perm (fun e : String × Json => e.1 == "type")
    (fields.filter fun e => !(e.1 == "name"))
  rw [List.filter_filter, List.filter_filter] at inner
  have types : (fields.filter fun e => e.1 == "type" && !(e.1 == "name")) =
      fields.filter (·.1 == "type") := by
    refine List.filter_congr fun e _ => ?_
    by_cases same : e.1 = "type" <;> simp [same]
  have others : (fields.filter fun e => !(e.1 == "type") && !(e.1 == "name")) =
      fields.filter fun e => e.1 != "name" && e.1 != "type" :=
    List.filter_congr fun e _ => Bool.and_comm _ _
  rw [types, others] at inner
  rw [arranged, List.append_assoc]
  exact (inner.append_left _).trans outer

/-- A key that stands once selects its member. -/
theorem filter_key_eq {fields : Fields} (once : (fields.map (·.1)).Nodup) {key : String} {j : Json}
    (member : (key, j) ∈ fields) : fields.filter (·.1 == key) = [(key, j)] := by
  induction fields with
  | nil => cases member
  | cons first rest ih =>
    obtain ⟨fresh, once⟩ := List.nodup_cons.1 once
    rcases List.mem_cons.1 member with rfl | later
    · have nothing : rest.filter (·.1 == key) = [] := by
        refine List.filter_eq_nil_iff.2 fun e known same => fresh ?_
        exact List.mem_map.2 ⟨e, known, by simpa using same⟩
      rw [List.filter_cons_of_pos (by simp), nothing]
    · have other : first.1 ≠ key := fun same =>
        fresh (List.mem_map.2 ⟨_, later, same.symm⟩)
      rw [List.filter_cons_of_neg (by simpa using other), ih once later]

end Json

namespace Catalog

open Files (Path FileTree)
open Json (Spells nestings arranged)

/-! ### One field -/

/-- An object with a name and a type that are texts. -/
def IsField (j : Json) : Prop :=
  (∃ name, j.field? "name" = some (.string name)) ∧
  ∃ type, j.field? "type" = some (.string type)

/-- How the description of a field is shown. -/
def shown : Json → Json
  | .object fields => .object (arranged fields)
  | j => j

namespace SchemaField

/-- What a member of a description changes in a field. -/
abbrev takeMember (f : SchemaField) (member : String × Json) : Except Json.Mismatch SchemaField :=
  layout.takeMember (fun key j f => { f with extra := Json.setField key j f.extra }) f member

variable {f taken : SchemaField} {fields : Json.Fields}

theorem takeMember_name (j : Json) : f.takeMember ("name", j) =
    (Json.Decoder.string.ofJson j).map fun s => { f with name := s } := by
  show ((Json.Decoder.string.ofJson j).map _).map _ = _
  cases Json.Decoder.string.ofJson j <;> rfl

theorem takeMember_type (j : Json) : f.takeMember ("type", j) =
    (Json.Decoder.string.ofJson j).map fun s => { f with dataType := s } := by
  show ((Json.Decoder.string.ofJson j).map _).map _ = _
  cases Json.Decoder.string.ofJson j <;> rfl

theorem takeMember_other {key : String} (name : key ≠ "name") (type : key ≠ "type") (j : Json) :
    f.takeMember (key, j) = .ok { f with extra := Json.setField key j f.extra } := by
  have unknown : layout.field? key = none := by
    simp [Json.Layout.field?, layout, Json.Field.required, Ne.symm name, Ne.symm type]
  simp only [takeMember, Json.Layout.takeMember, unknown]

/-- What members that name each key once make of a field: its name and its type come from them if
they are there, and the others are kept in their order. -/
theorem of_foldlM (once : (fields.map (·.1)).Nodup)
    (fresh : ∀ e ∈ fields, e.1 ∉ f.extra.map (·.1))
    (folded : fields.foldlM takeMember f = .ok taken) :
    .string taken.name = (Json.lookup? "name" fields).getD (.string f.name) ∧
    .string taken.dataType = (Json.lookup? "type" fields).getD (.string f.dataType) ∧
    taken.extra = f.extra ++ fields.filter fun e => e.1 != "name" && e.1 != "type" := by
  induction fields generalizing f with
  | nil =>
    obtain rfl := Except.ok.inj folded
    simp [Json.lookup?]
  | cons e rest ih =>
    obtain ⟨key, j⟩ := e
    obtain ⟨new, single⟩ := List.nodup_cons.1 once
    obtain ⟨here, later⟩ := List.forall_mem_cons.1 fresh
    rw [List.foldlM_cons] at folded
    obtain ⟨between, step, further⟩ := Json.bind_eq_ok_iff.1 folded
    have missing := Json.lookup?_of_fresh new
    by_cases name : key = "name"
    · subst name
      rw [takeMember_name] at step
      obtain ⟨s, text, rfl⟩ := Json.map_eq_ok_iff.1 step
      obtain rfl := Json.ofJson_string_eq_ok_iff.1 text
      obtain ⟨named, typed, kept⟩ := ih (f := { f with name := s }) single later further
      exact ⟨by simpa [missing, Json.lookup?] using named, by simpa [Json.lookup?] using typed,
        by simpa using kept⟩
    · by_cases type : key = "type"
      · subst type
        rw [takeMember_type] at step
        obtain ⟨s, text, rfl⟩ := Json.map_eq_ok_iff.1 step
        obtain rfl := Json.ofJson_string_eq_ok_iff.1 text
        obtain ⟨named, typed, kept⟩ := ih (f := { f with dataType := s }) single later further
        exact ⟨by simpa [Json.lookup?] using named,
          by simpa [missing, Json.lookup?] using typed, by simpa using kept⟩
      · rw [takeMember_other name type] at step
        obtain rfl := Except.ok.inj step
        have extra := Json.setField_of_fresh here j
        have later' : ∀ e ∈ rest, e.1 ∉ (Json.setField key j f.extra).map (·.1) := by
          intro e member
          rw [extra, List.map_append, List.mem_append, not_or]
          refine ⟨later e member, fun same => new ?_⟩
          exact List.mem_map.2 ⟨e, member, by simpa using same⟩
        obtain ⟨named, typed, kept⟩ := ih single later' further
        exact ⟨by simpa [Json.lookup?, name] using named, by simpa [Json.lookup?, type] using typed,
          by simp [kept, extra, name, type]⟩

end SchemaField

namespace SchemaField

variable {f : SchemaField} {j : Json}

/-- Where members are taken, names and types are texts. -/
theorem string_of_foldlM {fields : Json.Fields} {f taken : SchemaField}
    (folded : fields.foldlM takeMember f = .ok taken) :
    ∀ e ∈ fields, e.1 = "name" ∨ e.1 = "type" → ∃ s, e.2 = .string s := by
  induction fields generalizing f with
  | nil => simp
  | cons e rest ih =>
    rw [List.foldlM_cons] at folded
    obtain ⟨between, step, folded⟩ := Json.bind_eq_ok_iff.1 folded
    refine List.forall_mem_cons.2 ⟨fun key => ?_, ih folded⟩
    obtain ⟨key', j⟩ := e
    rcases key with rfl | rfl
    · rw [takeMember_name] at step
      obtain ⟨s, text, -⟩ := Json.map_eq_ok_iff.1 step
      exact ⟨s, Json.ofJson_string_eq_ok_iff.1 text⟩
    · rw [takeMember_type] at step
      obtain ⟨s, text, -⟩ := Json.map_eq_ok_iff.1 step
      exact ⟨s, Json.ofJson_string_eq_ok_iff.1 text⟩

/-- Only an object with a name and a type that are texts is decoded. -/
theorem isField_of_decoded (decoded : decoder.ofJson j = .ok f) : IsField j := by
  obtain ⟨fields, rfl, folded, there⟩ := Json.ofJson_openDecoder_eq_ok_iff.1 decoded
  have texts {key : String} (named : key = "name" ∨ key = "type") (must : key ∈ fields.map (·.1)) :
      ∃ s, (Json.object fields).field? key = some (.string s) := by
    cases found : Json.lookup? key fields with
    | none =>
      rw [Json.lookup?_eq_find?, Option.map_eq_none_iff, List.find?_eq_none] at found
      obtain ⟨e, member, same⟩ := List.mem_map.1 must
      exact absurd (beq_iff_eq.2 same) (found e member)
    | some j =>
      obtain ⟨s, rfl⟩ := string_of_foldlM folded _ (Json.mem_of_lookup? found) named
      exact ⟨s, found⟩
  exact ⟨texts (.inl rfl) (there _ List.mem_cons_self rfl),
    texts (.inr rfl) (there _ (List.mem_cons_of_mem _ List.mem_cons_self) rfl)⟩

/-- A description of a field is decoded, and the field is shown as it was described. -/
theorem decoded_of_isField (described : IsField j) (once : j.KeysOnce) :
    ∃ f, decoder.ofJson j = .ok f ∧ f.toJson = shown j := by
  obtain ⟨⟨name, named⟩, type, typed⟩ := described
  cases j with
  | object fields =>
    obtain ⟨single, -⟩ := once.fields
    replace named : Json.lookup? "name" fields = some (.string name) := named
    replace typed : Json.lookup? "type" fields = some (.string type) := typed
    have only {key s : String} (there : Json.lookup? key fields = some (.string s)) (j : Json)
        (member : (key, j) ∈ fields) : j = .string s := by
      rw [(Json.lookup?_eq_some_iff single).2 member] at there
      exact Option.some.inj there
    have member (key s : String) (there : Json.lookup? key fields = some (.string s)) :
        fields.filter (·.1 == key) = [(key, .string s)] :=
      Json.filter_key_eq single (Json.mem_of_lookup? there)
    obtain ⟨taken, folded⟩ : ∃ taken, fields.foldlM takeMember layout.blank = .ok taken := by
      refine Json.Layout.exists_foldlM (fun e here field known => ?_) _
      obtain ⟨field', same⟩ := Json.Layout.of_field? known
      obtain ⟨key, j⟩ := e
      rcases List.mem_cons.1 field' with rfl | field'
      · obtain rfl : "name" = key := same
        rw [only named j here]
        exact ⟨_, rfl⟩
      · obtain rfl := List.mem_singleton.1 field'
        obtain rfl : "type" = key := same
        rw [only typed j here]
        exact ⟨_, rfl⟩
    obtain ⟨named', typed', kept⟩ := of_foldlM single (by simp [layout]) folded
    have there : ∀ f ∈ layout.fields, f.presence = .required → f.name ∈ fields.map (·.1) := by
      intro field known _
      rcases List.mem_cons.1 known with rfl | known
      · exact List.mem_map.2 ⟨_, Json.mem_of_lookup? named, rfl⟩
      · obtain rfl := List.mem_singleton.1 known
        exact List.mem_map.2 ⟨_, Json.mem_of_lookup? typed, rfl⟩
    refine ⟨taken, Json.ofJson_openDecoder_eq_ok_iff.2 ⟨fields, rfl, folded, there⟩, ?_⟩
    rw [named, Option.getD_some] at named'
    rw [typed, Option.getD_some] at typed'
    rw [toJson, named', typed', kept, shown, arranged, member _ _ named, member _ _ typed]
    rfl
  | _ => cases named

/-- The members of a description are taken alike from a text and from its value. -/
theorem decoder_uniform : decoder.Uniform := by
  refine Json.uniform_openDecoder _ fun field known => ?_
  rcases List.mem_cons.1 known with rfl | known
  · exact Json.uniform_map (fun s (f : SchemaField) => { f with name := s }) Json.uniform_string
  · obtain rfl := List.mem_singleton.1 known
    exact Json.uniform_map (fun s (f : SchemaField) => { f with dataType := s }) Json.uniform_string

end SchemaField

/-! ### Schema texts -/

/-- A text spells a list of descriptions of fields that is not too deep to be read. -/
structure Describes (text : String) (items : List Json) : Prop where
  spelled : Spells text (.array items)
  shallow : (Json.array items).Shallow nestings
  fields : ∀ item ∈ items, IsField item

variable {text : String} {items : List Json}

theorem schemaDecoder_uniform : schemaDecoder.Uniform :=
  Json.uniform_list SchemaField.decoder_uniform

theorem decodeSchema_eq_ok_iff {fields : List SchemaField} :
    decodeSchema text = .ok fields ↔ schemaDecoder.decodeText text = .ok fields := by
  unfold decodeSchema
  cases schemaDecoder.decodeText text <;> simp

/-- Only descriptions of fields are decoded. -/
theorem describes_of_decodeSchema {fields : List SchemaField}
    (decoded : decodeSchema text = .ok fields) : ∃ items, Describes text items := by
  obtain ⟨j, spelled, shallow, fields', taken⟩ :=
    Json.spells_of_decodeText schemaDecoder_uniform (decodeSchema_eq_ok_iff.1 decoded)
  cases j with
  | array items =>
    refine ⟨items, spelled, shallow, fun item member => ?_⟩
    obtain ⟨f, here⟩ := Json.exists_of_forall₂ (Json.mapM_eq_ok_iff.1 taken) member
    exact SchemaField.isField_of_decoded here
  | _ => cases taken

/-- Descriptions that name each key once are decoded, and shown as they were written. -/
theorem decodeSchema_of_describes (h : Describes text items) (once : (Json.array items).KeysOnce) :
    ∃ fields, decodeSchema text = .ok fields ∧ fields.map SchemaField.toJson = items.map shown := by
  obtain ⟨fields, taken, same⟩ : ∃ fields, schemaDecoder.ofJson (.array items) = .ok fields ∧
      fields.map SchemaField.toJson = items.map shown := by
    have each : ∀ item ∈ items, IsField item ∧ item.KeysOnce := fun item member =>
      ⟨h.fields item member, once.items item member⟩
    have unfolded : schemaDecoder.ofJson (.array items) =
      items.mapM SchemaField.decoder.ofJson := rfl
    rw [unfolded]
    clear h once unfolded
    induction items with
    | nil => exact ⟨[], rfl, rfl⟩
    | cons item items ih =>
      obtain ⟨⟨described, once⟩, others⟩ := List.forall_mem_cons.1 each
      obtain ⟨f, here, same⟩ := SchemaField.decoded_of_isField described once
      obtain ⟨fields, later, sames⟩ := ih others
      refine ⟨f :: fields, ?_, by rw [List.map_cons, List.map_cons, same, sames]⟩
      exact Json.mapM_eq_ok_iff.2 (.cons here (Json.mapM_eq_ok_iff.1 later))
  have decoded := Json.decodeText_of_spells schemaDecoder_uniform h.spelled once h.shallow taken
  exact ⟨fields, decodeSchema_eq_ok_iff.2 decoded, same⟩

/-! ### Contents of schema files -/

variable {t : FileTree} {p : Path} {contents : List UInt8}

/-- The fields that the contents of a schema file describe. -/
def describedBy (contents : List UInt8) : List SchemaField :=
  match (Text.ofOctets? contents).map decodeSchema with
  | some (.ok fields) => fields
  | _ => []

/-- What a schema file describes is told by its contents. -/
theorem value_loadSchema (read : t.readFile p = .ok contents) :
    (loadSchema t p).value = describedBy contents := by
  rw [loadSchema, describedBy]
  cases known : Text.ofOctets? contents with
  | none =>
    have unreadable : t.readText p = .error .notText := by
      simp only [FileTree.readText, read, bind, Except.bind, known]
    rw [unreadable]
    rfl
  | some text =>
    have readable : t.readText p = .ok text := by
      simp only [FileTree.readText, read, bind, Except.bind, known]
    rw [readable]
    simp only [Option.map_some]
    cases decodeSchema text <;> rfl

/-- An answer tells what the contents of a schema file say: each description with all its members
if they are a list of descriptions whose objects repeat no key, and nothing if they are no list of
descriptions. -/
structure Echoes (contents : List UInt8) (answer : List Json) : Prop where
  described : ∀ text items, Text.ofOctets? contents = some text → Describes text items →
    (Json.array items).KeysOnce → answer = items.map shown
  refused : (∀ text items, Text.ofOctets? contents = some text → ¬Describes text items) →
    answer = []

/-- The fields that contents describe tell what the contents say. -/
theorem echoes_describedBy (contents : List UInt8) :
    Echoes contents ((describedBy contents).map SchemaField.toJson) where
  described := by
    intro text items spelled described once
    obtain ⟨fields, decoded, same⟩ := decodeSchema_of_describes described once
    simp only [describedBy, spelled, Option.map_some, decoded, same]
  refused := by
    intro other
    unfold describedBy
    split
    · next fields read =>
      obtain ⟨text, spelled, decoded⟩ := Option.map_eq_some_iff.1 read
      obtain ⟨items, described⟩ := describes_of_decodeSchema decoded
      exact absurd described (other text items spelled)
    · rfl

/-- A text that is no list of descriptions describes no fields. -/
theorem describedBy_of_other (other : ∀ items, ¬Describes text items) :
    describedBy (Text.octets text) = [] := by
  refine List.map_eq_nil_iff.1 ((echoes_describedBy (Text.octets text)).refused fun text' items h =>
    ?_)
  obtain rfl : text = text' := by simpa [Text.ofOctets?_octets] using h
  exact other items

/-- The fields of a table are those that the contents of its schema file describe. A table without a
schema file has none. -/
structure Described (t : FileTree) (tb : Table) : Prop where
  bare : tb.schemaFile = none → tb.schemaFields = []
  told : ∀ p, tb.schemaFile = some p → ∃ contents, t.readFile p = .ok contents ∧
    Echoes contents (tb.schemaFields.map fun f =>
      .object (("name", .string f.name) :: ("type", .string f.dataType) :: f.extra))

end Catalog
end DataShelf
