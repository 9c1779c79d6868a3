import DataShelf.Proofs.Refusals
import DataShelf.Proofs.TextDecoding
import DataShelf.Proofs.WireFormats

/-!
# What is a request

Which values a record is decoded from, told field by field: an object needs the fields that must be
there, and every field that it has needs a value of its kind (`Layout.accepts_object_iff`); a list has
values of the fields in their order, and may end early before fields that may be left out
(`Layout.accepts_array_iff`). So there are two shapes of a request, objects and lists
(`accepts_request_iff`). The request in an object is what the object says (`says_of_decoded`), and a
line of another shape is refused and does nothing (`lines_are_requests_iff`).
-/

namespace DataShelf.Json
set_option autoImplicit false

/-- A decoder takes something out of a value. -/
def Decoder.Accepts {α : Type} (d : Decoder α) (j : Json) : Prop := ∃ a, d.ofJson j = .ok a

section Kinds

variable {α β : Type} {d : Decoder α} {j : Json}

/-- What is made of a value decides nothing about what is accepted. -/
theorem accepts_map_iff (f : α → β) : (d.map f).Accepts j ↔ d.Accepts j := by
  constructor
  · rintro ⟨b, taken⟩
    obtain ⟨a, taken, -⟩ := map_eq_ok_iff.1 taken
    exact ⟨a, taken⟩
  · rintro ⟨a, taken⟩
    exact ⟨f a, map_eq_ok_iff.2 ⟨a, taken, rfl⟩⟩

theorem accepts_string_iff : Decoder.string.Accepts j ↔ ∃ s, j = .string s := by
  simp only [Decoder.Accepts, ofJson_string_eq_ok_iff]

theorem accepts_option_any (j : Json) : (Decoder.option .any).Accepts j := by
  cases j <;> exact ⟨_, rfl⟩

end Kinds

/-! ### Records -/

section Records

variable {σ : Type} {l : Layout σ}

/-- What is given for a field suits it: a value of its kind, or nothing if it may be left out. -/
def Field.Suits (f : Field σ) : Option Json → Prop
  | some j => f.decoder.Accepts j
  | none => f.presence ≠ .required

section Fields

variable {α : Type} {d : Decoder α} (name : String) (set : α → σ → σ) {given : Option Json}

@[simp] theorem Field.name_required : (Field.required name d set).name = name := rfl

@[simp] theorem Field.name_defaulted : (Field.defaulted name d set).name = name := rfl

@[simp] theorem Field.accepts_required_iff {j : Json} :
    (Field.required name d set).decoder.Accepts j ↔ d.Accepts j :=
  accepts_map_iff set

@[simp] theorem Field.accepts_defaulted_iff {j : Json} :
    (Field.defaulted name d set).decoder.Accepts j ↔ d.Accepts j :=
  accepts_map_iff set

/-- A required field has to be given, and accepted. -/
theorem Field.suits_required_iff :
    (Field.required name d set).Suits given ↔ ∃ j, given = some j ∧ d.Accepts j := by
  cases given with
  | none => exact iff_of_false (fun suits => suits rfl) nofun
  | some j => simp [Field.Suits]

theorem Field.suits_defaulted_iff :
    (Field.defaulted name d set).Suits given ↔ ∀ j, given = some j → d.Accepts j := by
  cases given with
  | none => exact iff_of_true nofun nofun
  | some j => simp [Field.Suits]

end Fields

/-- Members that are taken are of the kinds of their fields. -/
theorem Layout.accepts_of_foldlM {fields : Fields} {record taken : σ}
    (folded : fields.foldlM l.takeField record = .ok taken) :
    ∀ e ∈ fields, ∀ f, l.field? e.1 = some f → f.decoder.Accepts e.2 := by
  induction fields generalizing record with
  | nil => exact nofun
  | cons e rest ih =>
    rw [List.foldlM_cons] at folded
    obtain ⟨between, step, later⟩ := bind_eq_ok_iff.1 folded
    refine List.forall_mem_cons.2 ⟨fun f known => ?_, ih later⟩
    rw [Layout.takeField, known] at step
    obtain ⟨change, here, -⟩ := map_eq_ok_iff.1 step
    exact ⟨change, here⟩

/-- An object is a record if what it has under the name of each field suits the field. -/
theorem Layout.accepts_object_iff (named : (l.fields.map Field.name).Nodup) {fields : Fields}
    (once : (fields.map (·.1)).Nodup) : l.decoder.Accepts (.object fields) ↔
      ∀ f ∈ l.fields, f.Suits (lookup? f.name fields) := by
  -- Without keys besides, the open form of a record is the record.
  have open_ (record : σ) :
      (l.openDecoder fun _ _ r => r).ofJson (.object fields) = .ok record ↔ _ :=
    ofJson_openDecoder_eq_ok_iff
  constructor
  · rintro ⟨record, decoded⟩ f member
    obtain ⟨_, ⟨⟩, folded, whole⟩ := (open_ record).1 decoded
    cases found : lookup? f.name fields with
    | some j =>
      exact accepts_of_foldlM folded _ (mem_of_lookup? found) f (l.field?_of_mem named member)
    | none =>
      intro must
      obtain ⟨⟨key, j⟩, inside, name⟩ := List.mem_map.1 (whole f member must)
      dsimp only at name
      subst name
      rw [(lookup?_eq_some_iff once).2 inside] at found
      cases found
  · intro each
    have known (e : String × Json) (inside : e ∈ fields) (f : Field σ)
        (here : l.field? e.1 = some f) : ∃ change, f.decoder.ofJson e.2 = .ok change := by
      obtain ⟨member, name⟩ := l.of_field? here
      have kind := each f member
      rw [name, (lookup?_eq_some_iff once).2 inside] at kind
      exact kind
    obtain ⟨record, folded⟩ := l.exists_foldlM known l.blank
    refine ⟨record, (open_ record).2 ⟨fields, rfl, folded, fun f member must => ?_⟩⟩
    have there := each f member
    cases found : lookup? f.name fields with
    | some j => exact List.mem_map_of_mem (mem_of_lookup? found)
    | none =>
      rw [found] at there
      exact absurd must there

/-- Values are taken for fields if there are not too many, each is of the kind of its field, and
the fields behind them may be left out. -/
theorem Layout.exists_ofItems_iff {fields : List (Field σ)} {items : List Json} {index : Nat}
    {record : σ} : (∃ taken, l.ofItems fields index record items = .ok taken) ↔
      items.length ≤ fields.length ∧
      (∀ pair ∈ fields.zip items, pair.1.decoder.Accepts pair.2) ∧
      ∀ f ∈ fields.drop items.length, f.presence = .defaulted := by
  induction fields generalizing items index record with
  | nil =>
    rw [Layout.ofItems]
    cases items <;> simp
  | cons f fields ih =>
    cases items with
    | nil =>
      rw [Layout.ofItems]
      by_cases free : f.presence = .defaulted
      · rw [if_pos free, ih]
        simp [free]
      · rw [if_neg free]
        simp [free]
    | cons j items =>
      rw [Layout.ofItems]
      cases taken : f.decoder.ofJson j with
      | ok change =>
        have kind : f.decoder.Accepts j := ⟨change, taken⟩
        show (∃ taken, l.ofItems fields (index + 1) (change record) items = .ok taken) ↔ _
        rw [ih]
        simp [kind]
      | error m =>
        have kind : ¬f.decoder.Accepts j := by
          rintro ⟨change, taken'⟩
          rw [taken] at taken'
          cases taken'
        refine iff_of_false ?_ fun h => kind (h.2.1 (f, j) (by simp))
        rintro ⟨_, ⟨⟩⟩

theorem Layout.accepts_array_iff {items : List Json} : l.decoder.Accepts (.array items) ↔
    items.length ≤ l.fields.length ∧
    (∀ pair ∈ l.fields.zip items, pair.1.decoder.Accepts pair.2) ∧
    ∀ f ∈ l.fields.drop items.length, f.presence = .defaulted :=
  l.exists_ofItems_iff

end Records
end DataShelf.Json

namespace DataShelf.Server

open Json (Fits)
open Rpc (Request RequestId Response)

/-! ### Requests -/

/-- A value is an id: a text, an integer of 64 bits with sign, or null. -/
def IsId : Json → Prop
  | .string _ => True
  | .integer n => -(Nat.pow 2 63 : Int) ≤ n ∧ n < Nat.pow 2 63
  | .null => True
  | _ => False

/-- An object has a version and a method that are texts, and if it has an id, it has one. -/
def IsRequestObject (j : Json) : Prop := ∃ fields, j = .object fields ∧
  (∃ version, Json.lookup? "jsonrpc" fields = some (.string version)) ∧
  (∃ method, Json.lookup? "method" fields = some (.string method)) ∧
  ∀ id, Json.lookup? "id" fields = some id → IsId id

/-- A list has a version, an id and a method in this order, and at most one value behind them. -/
def IsRequestList (j : Json) : Prop := ∃ version id method params,
  j = .array (.string version :: id :: .string method :: params) ∧ IsId id ∧ params.length ≤ 1

section Shapes

variable {j : Json}

/-- What is accepted as an identifier is one. -/
theorem accepts_id_iff (fits : ∀ n, j = .integer n → Fits n) :
    RequestId.decoder.Accepts j ↔ IsId j := by
  have known : RequestId.decoder.Accepts j ↔ ∃ id, RequestId.ofJson? j = some id :=
    exists_congr fun id => RequestId.ofJson_eq_ok_iff
  rw [known]
  cases j with
  | integer n =>
    have lower := (fits n rfl).1
    have same : n ≤ RequestId.greatest ↔ n < Nat.pow 2 63 := Int.le_sub_one_iff
    rw [RequestId.ofJson?, IsId]
    split
    · next small => exact iff_of_true ⟨_, rfl⟩ ⟨lower, same.1 small⟩
    · next great =>
      refine iff_of_false ?_ fun own => great (same.2 own.2)
      rintro ⟨_, ⟨⟩⟩
  | null => exact iff_of_true ⟨_, rfl⟩ trivial
  | string s => exact iff_of_true ⟨_, rfl⟩ trivial
  | _ =>
    refine iff_of_false ?_ id
    rintro ⟨_, ⟨⟩⟩

/-- What is accepted as a request in an object is one. -/
theorem accepts_object_iff {fields : Json.Fields} (once : (fields.map (·.1)).Nodup)
    (fits : ∀ n, .integer n ∈ (Json.object fields).parts → Fits n) :
    Request.decoder.Accepts (.object fields) ↔ IsRequestObject (.object fields) := by
  have own (id : Json) (found : Json.lookup? "id" fields = some id) :
      RequestId.decoder.Accepts id ↔ IsId id := by
    refine accepts_id_iff fun n same => fits n ?_
    exact List.mem_map.2 ⟨("id", id), Json.mem_of_lookup? found, same⟩
  rw [Request.decoder, Json.Layout.accepts_object_iff (by decide) once]
  simp only [Request.layout, List.forall_mem_cons, Json.Field.name_required,
    Json.Field.name_defaulted, Json.Field.suits_required_iff, Json.Field.suits_defaulted_iff]
  constructor
  · rintro ⟨⟨_, version, text⟩, id, ⟨_, method, text'⟩, -, -⟩
    obtain ⟨_, rfl⟩ := Json.accepts_string_iff.1 text
    obtain ⟨_, rfl⟩ := Json.accepts_string_iff.1 text'
    exact ⟨fields, rfl, ⟨_, version⟩, ⟨_, method⟩, fun j found => (own j found).1 (id j found)⟩
  · rintro ⟨_, ⟨⟩, ⟨_, version⟩, ⟨_, method⟩, id⟩
    refine ⟨⟨_, version, Json.accepts_string_iff.2 ⟨_, rfl⟩⟩,
      fun j found => (own j found).2 (id j found), ⟨_, method, Json.accepts_string_iff.2 ⟨_, rfl⟩⟩,
      fun j _ => Json.accepts_option_any j, by simp⟩

/-- A list is a request by its first three items, and may have one more. -/
theorem isRequestList_iff {version id method : Json} {params : List Json} :
    IsRequestList (.array (version :: id :: method :: params)) ↔ params.length ≤ 1 ∧
      Json.Decoder.string.Accepts version ∧ IsId id ∧ Json.Decoder.string.Accepts method := by
  simp only [Json.accepts_string_iff]
  constructor
  · rintro ⟨_, _, _, _, ⟨⟩, own, few⟩
    exact ⟨few, ⟨_, rfl⟩, own, _, rfl⟩
  · rintro ⟨few, ⟨_, rfl⟩, own, _, rfl⟩
    exact ⟨_, _, _, _, rfl, own, few⟩

/-- The field of a request that holds its parameters. -/
def paramsField : Json.Field Request :=
  .defaulted "params" (.option .any) fun p r => { r with params := p }

/-- What is accepted as a request in a list is one. -/
theorem accepts_array_iff {items : List Json}
    (fits : ∀ n, .integer n ∈ (Json.array items).parts → Fits n) :
    Request.decoder.Accepts (.array items) ↔ IsRequestList (.array items) := by
  rw [Request.decoder, Json.Layout.accepts_array_iff]
  match items with
  | version :: id :: method :: params =>
    have own : RequestId.decoder.Accepts id ↔ IsId id :=
      accepts_id_iff fun n same => fits n (by simp [Json.parts, same])
    -- Anything may stand in the fourth place, or nothing.
    have any : ∀ pair ∈ [paramsField].zip params, pair.1.decoder.Accepts pair.2 := by
      rintro ⟨f, j⟩ member
      obtain rfl := List.mem_singleton.1 (List.of_mem_zip member).1
      exact (Json.accepts_map_iff _).2 (Json.accepts_option_any j)
    have free : ∀ f ∈ [paramsField].drop params.length, f.presence = .defaulted := by
      intro f member
      obtain rfl := List.mem_singleton.1 (List.mem_of_mem_drop member)
      rfl
    rw [isRequestList_iff, ← own]
    simp only [Request.layout, List.length_cons, List.length_nil, List.zip_cons_cons, List.drop_succ_cons,
      List.forall_mem_cons, Json.Field.accepts_required_iff, Json.Field.accepts_defaulted_iff]
    constructor
    · rintro ⟨few, ⟨text, id, text', -⟩, -⟩
      exact ⟨by omega, text, id, text'⟩
    · rintro ⟨few, text, id, text'⟩
      exact ⟨by omega, ⟨text, id, text', any⟩, free⟩
  | [] =>
    refine iff_of_false ?_ (by rintro ⟨_, _, _, _, ⟨⟩, -, -⟩)
    simp [Request.layout, Json.Field.required]
  | [_] =>
    refine iff_of_false ?_ (by rintro ⟨_, _, _, _, ⟨⟩, -, -⟩)
    simp [Request.layout, Json.Field.required]
  | [_, _] =>
    refine iff_of_false ?_ (by rintro ⟨_, _, _, _, ⟨⟩, -, -⟩)
    simp [Request.layout, Json.Field.required]

/-- There are two shapes of a request. -/
theorem accepts_request_iff (once : j.KeysOnce) (fits : ∀ n, .integer n ∈ j.parts → Fits n) :
    Request.decoder.Accepts j ↔ IsRequestObject j ∨ IsRequestList j := by
  cases j with
  | object fields =>
    rw [accepts_object_iff once.fields.1 fits, or_iff_left]
    rintro ⟨_, _, _, _, ⟨⟩, -, -⟩
  | array items =>
    rw [accepts_array_iff fits, or_iff_right]
    rintro ⟨_, ⟨⟩, -⟩
  | _ =>
    refine iff_of_false ?_ ?_
    · rintro ⟨_, ⟨⟩⟩
    · rintro (⟨_, ⟨⟩, -⟩ | ⟨_, _, _, _, ⟨⟩, -, -⟩)

end Shapes

/-- A request is what an object has under the names of its parts. -/
structure Says (fields : Json.Fields) (request : Request) : Prop where
  version : Json.lookup? "jsonrpc" fields = some (.string request.version)
  id : request.id = (Json.lookup? "id" fields).bind RequestId.ofJson?
  method : Json.lookup? "method" fields = some (.string request.method)
  params : request.params = givenParams (Json.lookup? "params" fields)

section Parts

variable {fields : Json.Fields} {request request' : Request} {j : Json}

/-- Each of the two texts of a request is made by the field of its name alone. -/
theorem takeField_texts {key : String}
    (taken : Request.layout.takeField request (key, j) = .ok request') :
    (key = "jsonrpc" → j = .string request'.version) ∧
    (key ≠ "jsonrpc" → request'.version = request.version) ∧
    (key = "method" → j = .string request'.method) ∧
    (key ≠ "method" → request'.method = request.method) := by
  unfold Json.Layout.takeField at taken
  split at taken
  · next f known =>
    obtain ⟨change, decoded, rfl⟩ := Json.map_eq_ok_iff.1 taken
    obtain ⟨member, rfl⟩ := Request.layout.of_field? known
    simp only [Request.layout, List.mem_cons, List.not_mem_nil, or_false] at member
    rcases member with rfl | rfl | rfl | rfl <;>
      obtain ⟨_, given, rfl⟩ := Json.map_eq_ok_iff.1 decoded
    · obtain rfl := Json.ofJson_string_eq_ok_iff.1 given
      simp
    · simp
    · obtain rfl := Json.ofJson_string_eq_ok_iff.1 given
      simp
    · simp
  · next unknown =>
    rw [Except.ok.inj taken]
    refine ⟨?_, fun _ => rfl, ?_, fun _ => rfl⟩
    · rintro rfl
      cases unknown
    · rintro rfl
      cases unknown

/-- A request that an object decodes to is what the object says. -/
theorem says_of_decoded (once : (fields.map (·.1)).Nodup) (shape : IsRequestObject (.object fields))
    (decoded : Request.decoder.ofJson (.object fields) = .ok request) : Says fields request := by
  obtain ⟨_, ⟨⟩, ⟨version, given⟩, ⟨method, given'⟩, -⟩ := shape
  have text := Request.layout.part_of_object (fun r => some (Json.string r.version))
    (fun j request request' taken => congrArg some ((takeField_texts taken).1 rfl).symm)
    (fun key j request request' other taken => by rw [(takeField_texts taken).2.1 other]) once decoded
  have text' := Request.layout.part_of_object (fun r => some (Json.string r.method))
    (fun j request request' taken => congrArg some ((takeField_texts taken).2.2.1 rfl).symm)
    (fun key j request request' other taken => by rw [(takeField_texts taken).2.2.2 other])
    once decoded
  rw [given] at text
  rw [given'] at text'
  exact ⟨given.trans text.symm, id_of_decoded once decoded, given'.trans text'.symm,
    params_of_decoded once decoded⟩

end Parts

/-! ### Lines -/

section Lines

variable {line : String} {j : Json}

/-- A line that is JSON is parsed as the request that is decoded, or refused under the identifier
that it has. -/
theorem value_parseLine (read : Json.read line = .ok j) : (parseLine line).value =
    match Request.decoder.ofJson j with
    | .ok request => .ok request
    | .error m => .error (.failure ((j.field? "id").bind RequestId.ofJson?)
        (.of .invalidRequest ("Invalid request: " ++ m.message))) := by
  simp only [parseLine, read, requestOf]
  cases Request.decoder.ofJson j <;> rfl

/-- A line that is parsed is a request that was decoded. -/
theorem decoded_of_parsed {request : Request} (read : Json.read line = .ok j)
    (parsed : (parseLine line).value = .ok request) : Request.decoder.ofJson j = .ok request := by
  rw [value_parseLine read] at parsed
  cases decoded : Request.decoder.ofJson j with
  | ok request' =>
    rw [decoded] at parsed
    obtain rfl := Except.ok.inj parsed
    rfl
  | error m =>
    rw [decoded] at parsed
    cases parsed

/-- A line that is JSON is parsed exactly if it is an object or a list of the shape of a request. -/
theorem exists_request_iff (read : Json.read line = .ok j) :
    (∃ request, (parseLine line).value = .ok request) ↔ IsRequestObject j ∨ IsRequestList j := by
  obtain ⟨rest, value⟩ := Json.value_of_read read
  rw [← accepts_request_iff (Json.keysOnce_of_read read) fun n => Json.fits_of_part value]
  constructor
  · rintro ⟨request, parsed⟩
    exact ⟨request, decoded_of_parsed read parsed⟩
  · rintro ⟨request, decoded⟩
    exact ⟨request, by rw [value_parseLine read, decoded]⟩

/-- A line that is parsed is answered as its request is handled. -/
theorem respondTo_of_parsed (s : Server) (initialized : Bool) {request : Request}
    (parsed : (parseLine line).value = .ok request) :
    (respondTo s initialized line).value =
        ((s.handle request).value, initialized || introduces request) ∧
      (respondTo s initialized line).calls = (s.handle request).calls := by
  rw [calls_respondTo, respondTo, Traced.value_bind, parsed]
  exact ⟨rfl, rfl⟩

/-- A line that is refused is answered so, and the engine is asked for nothing. -/
theorem respondTo_of_refused (s : Server) (initialized : Bool) {response : Response}
    (refused : (parseLine line).value = .error response) :
    (respondTo s initialized line).value = (some response, initialized) ∧
      (respondTo s initialized line).calls = [] := by
  rw [calls_respondTo, respondTo, Traced.value_bind, refused]
  exact ⟨rfl, rfl⟩

/-- **Lines that are requests.** A line that is JSON is handled as a request exactly if it is an object
with texts for version and method and an id, if it has one, or a list of these in the order version,
id, method with at most one value behind them. So it is objects alone that are handled unless the line
is such a list. The request in an object is what the object says. A line that is handled is answered
what its request is, and only its request says whether a client introduced itself and what the engine
is asked for. Any other line is answered by an error of the number -32600, and nothing else is done. -/
theorem lines_are_requests_iff (read : Json.read line = .ok j) :
    (((∃ request, (parseLine line).value = .ok request) ↔ IsRequestObject j) ↔ ¬IsRequestList j) ∧
    ((∃ request, (parseLine line).value = .ok request) ↔ IsRequestObject j ∨ IsRequestList j) ∧
    (∀ request, (parseLine line).value = .ok request →
      (∀ fields, j = .object fields → Says fields request) ∧
      ∀ (s : Server) (initialized : Bool),
        (respondTo s initialized line).value =
          ((s.handle request).value, initialized || introduces request) ∧
        (respondTo s initialized line).calls = (s.handle request).calls) ∧
    (¬(IsRequestObject j ∨ IsRequestList j) → ∃ id e, e.code = -32600 ∧
      ∀ (s : Server) (initialized : Bool),
        (respondTo s initialized line).value = (some (.failure id e), initialized) ∧
        (respondTo s initialized line).calls = []) := by
  have shapes := exists_request_iff read
  refine ⟨?_, shapes, ?_, ?_⟩
  · rw [shapes]
    constructor
    · rintro objects ⟨_, _, _, _, rfl, own, few⟩
      obtain ⟨_, ⟨⟩, -⟩ := objects.1 (.inr ⟨_, _, _, _, rfl, own, few⟩)
    · intro other
      exact or_iff_left other
  · intro request parsed
    refine ⟨?_, fun s initialized => respondTo_of_parsed s initialized parsed⟩
    rintro fields rfl
    have object : IsRequestObject (.object fields) := by
      apply (shapes.1 ⟨request, parsed⟩).resolve_right
      rintro ⟨_, _, _, _, ⟨⟩, -, -⟩
    exact says_of_decoded (Json.keysOnce_of_read read).fields.1 object (decoded_of_parsed read parsed)
  · intro other
    have refused := mt shapes.1 other
    rw [value_parseLine read] at refused
    cases decoded : Request.decoder.ofJson j with
    | ok request => exact absurd ⟨request, by rw [decoded]⟩ refused
    | error m =>
      have parsed := value_parseLine read
      rw [decoded] at parsed
      exact ⟨_, _, rfl, fun s initialized => respondTo_of_refused s initialized parsed⟩

end Lines

/-- A greeting is an object, so it is handled. -/
theorem greeting_is_request :
    IsRequestObject greetingJson ∧ ∃ request, (parseLine greeting).value = .ok request := by
  have object : IsRequestObject greetingJson := ⟨_, rfl, ⟨_, rfl⟩, ⟨_, rfl⟩, nofun⟩
  exact ⟨object, (lines_are_requests_iff read_greeting).2.1.2 (.inl object)⟩

/-- A greeting without the names of its parts. -/
def listedGreeting : String :=
  "[\"2.0\",1,\"initialize\",\x7b\"protocolVersion\":\"1\",\"clientInfo\":\x7b\"name\":\"c\"\x7d\x7d]"

/-- Such a greeting is a list, and it is handled: a client has introduced itself by it. -/
theorem listed_greeting_is_handled :
    ∃ j, Json.read listedGreeting = .ok j ∧ ¬IsRequestObject j ∧
      (∃ request, (parseLine listedGreeting).value = .ok request) ∧
      (respondTo bareServer false listedGreeting).value.2 = true := by
  have text : listedGreeting = Json.compact (.array [.string "2.0", .integer 1, .string "initialize",
      .object [("protocolVersion", .string "1"), ("clientInfo", .object [("name", .string "c")])]]) := by
    decide
  have read := Json.read_compact (j := .array [.string "2.0", .integer 1, .string "initialize",
      .object [("protocolVersion", .string "1"), ("clientInfo", .object [("name", .string "c")])]])
    (.array (by simp [Json.Fits]))
  rw [← text] at read
  have parsed := value_parseLine read
  refine ⟨_, read, ?_, ⟨_, parsed⟩, ?_⟩
  · rintro ⟨_, ⟨⟩, -⟩
  · rw [(respondTo_of_parsed bareServer false parsed).1]
    rfl

end DataShelf.Server
