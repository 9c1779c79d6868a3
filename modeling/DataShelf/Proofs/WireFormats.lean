import DataShelf.Proofs.Notifications
import DataShelf.Wire.Handshake
import DataShelf.Wire.Resource
import DataShelf.Wire.Tool

/-!
# Formats of the wire

What is decoded in a format of the wire, from an object or from a list, is decoded again from what it
is encoded as (`formats_stable`). Most formats are faithful: every value of theirs comes back
(`Format.Faithful`). The others have values that nothing is decoded to, such as parameters that are
there and null, and what is decoded is none of those (`Request.Receivable`, `Response.Receivable`,
`ErrorObject.Receivable`). The id of a request is encoded as it was given, if it was given
(`Request.field?_id_of_decoded`).
-/

namespace DataShelf
set_option autoImplicit false

namespace Json

/-- A list of encoded values is decoded to the values. -/
theorem ofJson_array {α : Type} {d : Decoder α} {encode : α → Json} {l : List α}
    (each : ∀ a ∈ l, d.ofJson (encode a) = .ok a) :
    (Decoder.list d).ofJson (.array (l.map encode)) = .ok l := by
  show (l.map encode).mapM d.ofJson = .ok l
  induction l with
  | nil => rfl
  | cons a l ih =>
    obtain ⟨here, later⟩ := List.forall_mem_cons.1 each
    rw [List.map_cons, List.mapM_cons, here, ih later]
    rfl

/-- What is made of a value is made of what was decoded. -/
theorem ofJson_map {α β : Type} {d : Decoder α} {j : Json} {a : α} (f : α → β)
    (decoded : d.ofJson j = .ok a) : (d.map f).ofJson j = .ok (f a) := by
  show (d.ofJson j).map f = _
  rw [decoded]
  rfl

/-- A value that is there is decoded as one. -/
theorem ofJson_option {α : Type} {d : Decoder α} {j : Json} {a : α} (there : j ≠ .null)
    (decoded : d.ofJson j = .ok a) : (Decoder.option d).ofJson j = .ok (some a) := by
  cases j <;> simp_all [Decoder.option, Except.map]

/-! ### Records -/

section Records

variable {σ : Type}

/-- Fields of a record as they are encoded, each with its value or left out, and what the values
change in a record together. A field that must be there has a value. -/
inductive Written : List (Field σ) → List (String × Option Json) → (σ → σ) → Prop
  | nil : Written [] [] id
  | given {f : Field σ} {fields : List (Field σ)} {pieces : List (String × Option Json)} {j : Json}
      {change later : σ → σ} (decoded : f.decoder.ofJson j = .ok change)
      (rest : Written fields pieces later) :
      Written (f :: fields) ((f.name, some j) :: pieces) (later ∘ change)
  | leftOut {f : Field σ} {fields : List (Field σ)} {pieces : List (String × Option Json)}
      {later : σ → σ} (free : f.presence ≠ .required) (rest : Written fields pieces later) :
      Written (f :: fields) ((f.name, none) :: pieces) later

/-- A field that is a value as it stands, or is left out. -/
theorem Written.whole {f : Field σ} {fields : List (Field σ)}
    {pieces : List (String × Option Json)} {later : σ → σ} {set : Json → σ → σ}
    (value : Option Json) (free : f.presence ≠ .required)
    (decoded : ∀ j ∈ value, f.decoder.ofJson j = .ok (set j))
    (rest : Written fields pieces later) :
    Written (f :: fields) ((f.name, value) :: pieces) (later ∘ value.elim id set) := by
  cases value with
  | none => exact .leftOut free rest
  | some j => exact .given (decoded j rfl) rest

/-- A field that has a value, which is encoded, or is left out. -/
theorem Written.option {α : Type} {f : Field σ} {fields : List (Field σ)}
    {pieces : List (String × Option Json)} {later : σ → σ} {encode : α → Json} {set : α → σ → σ}
    (a : Option α) (free : f.presence ≠ .required)
    (decoded : ∀ b ∈ a, f.decoder.ofJson (encode b) = .ok (set b))
    (rest : Written fields pieces later) :
    Written (f :: fields) ((f.name, a.map encode) :: pieces) (later ∘ a.elim id set) := by
  cases a with
  | none => exact .leftOut free rest
  | some b => exact .given (decoded b rfl) rest

/-- The values among the pieces of a record. -/
def present (pieces : List (String × Option Json)) : Fields :=
  pieces.filterMap fun piece => piece.2.map fun j => (piece.1, j)

variable {l : Layout σ} {fields : List (Field σ)} {pieces : List (String × Option Json)}
  {change : σ → σ}

/-- A field is found under its name if names are apart. -/
theorem Layout.field?_of_mem (once : (l.fields.map Field.name).Nodup) {f : Field σ}
    (member : f ∈ l.fields) : l.field? f.name = some f := by
  have found : (l.field? f.name).isSome := List.find?_isSome.2 ⟨f, member, by simp⟩
  obtain ⟨f', known⟩ := Option.isSome_iff_exists.1 found
  have named : f'.name = f.name := by simpa using List.find?_some known
  rw [known, List.inj_on_of_nodup_map once (List.mem_of_find?_eq_some known) member named]

/-- The values of encoded fields are taken one after the other. -/
theorem Written.foldlM_takeField (written : Written fields pieces change)
    (known : ∀ f ∈ fields, l.field? f.name = some f) (record : σ) :
    (present pieces).foldlM l.takeField record = .ok (change record) := by
  induction written generalizing record with
  | nil => rfl
  | @given f fields pieces j change later decoded rest ih =>
    obtain ⟨here, others⟩ := List.forall_mem_cons.1 known
    have step : l.takeField record (f.name, j) = .ok (change record) := by
      simp only [Layout.takeField, here, decoded]
      rfl
    show List.foldlM l.takeField record ((f.name, j) :: present pieces) = _
    rw [List.foldlM_cons, step]
    exact ih others (change record)
  | leftOut free rest ih => exact ih (List.forall_mem_cons.1 known).2 record

/-- A field that must be there is among the values. -/
theorem Written.mem_keys (written : Written fields pieces change) :
    ∀ f ∈ fields, f.presence = .required → f.name ∈ (present pieces).map (·.1) := by
  induction written with
  | nil => simp
  | given decoded rest ih =>
    refine List.forall_mem_cons.2 ⟨fun _ => List.mem_cons_self, fun f member must => ?_⟩
    exact List.mem_cons_of_mem _ (ih f member must)
  | leftOut free rest ih =>
    exact List.forall_mem_cons.2 ⟨fun must => absurd must free, ih⟩

/-- An encoded record is decoded to what its values change in the blank one. -/
theorem Layout.ofJson_written (once : (l.fields.map Field.name).Nodup)
    (written : Written l.fields pieces change) {j : Json} {record : σ}
    (encoded : j = .record pieces) (made : record = change l.blank) :
    l.decoder.ofJson j = .ok record := by
  have folded := written.foldlM_takeField (fun f member => field?_of_mem once member) l.blank
  have whole : l.missing? ((present pieces).map (·.1)) = none := by
    rw [Layout.missing?, List.find?_eq_none]
    intro f member missing
    obtain ⟨must, unseen⟩ : f.presence = .required ∧ f.name ∉ (present pieces).map (·.1) := by
      simpa using missing
    exact unseen (written.mem_keys f member must)
  have fields : Json.record pieces = .object (present pieces) := rfl
  rw [encoded, fields, Layout.ofJson_object, folded, made]
  refine bind_eq_ok_iff.2 ⟨_, rfl, ?_⟩
  rw [whole]

end Records

/-- What is decoded as a value that is there is decoded from a value that is not null. -/
theorem ofJson_option_some {α : Type} {d : Decoder α} {j : Json} {a : α}
    (decoded : (Decoder.option d).ofJson j = .ok (some a)) : j ≠ .null ∧ d.ofJson j = .ok a := by
  cases j with
  | null => cases decoded
  | _ =>
    obtain ⟨_, given, same⟩ := map_eq_ok_iff.1 decoded
    cases same
    exact ⟨nofun, given⟩

/-- A value that is there and is not null is decoded as it stands. -/
theorem ofJson_option_of_ne {value : Option Json} (there : value ≠ some .null) :
    ∀ j ∈ value, (Decoder.option .any).ofJson j = .ok (some j) :=
  fun _ here => ofJson_option (fun null => there (null ▸ here)) rfl

/-- What is decoded as a value that is there is not null. -/
theorem ofJson_option_any {j : Json} {value : Option Json}
    (decoded : (Decoder.option .any).ofJson j = .ok value) : value ≠ some .null := by
  cases j <;> cases decoded <;> simp

end Json

namespace Wire

open Rpc (ErrorObject Request RequestId Response)

/-- A format of the wire: how values of a type are taken from JSON, and how they are put into it. -/
structure Format where
  Carrier : Type
  decoder : Json.Decoder Carrier
  toJson : Carrier → Json

namespace Format

/-- Every value is decoded from what it is encoded as. -/
def Faithful (f : Format) : Prop := ∀ x, f.decoder.ofJson (f.toJson x) = .ok x

/-- Every value that is decoded is decoded again from what it is encoded as. -/
def Stable (f : Format) : Prop :=
  ∀ j x, f.decoder.ofJson j = .ok x → f.decoder.ofJson (f.toJson x) = .ok x

/-- What comes back as it was sent is stable. -/
theorem Faithful.stable {f : Format} (h : f.Faithful) : f.Stable := fun _ x _ => h x

end Format

open Json (Written)
open Json.Layout (ofJson_written)

/-! ### The handshake -/

theorem ClientInfo.ofJson_toJson (c : ClientInfo) : decoder.ofJson c.toJson = .ok c :=
  ofJson_written (by decide) (.given rfl (.given rfl .nil)) rfl rfl

theorem InitializeParams.ofJson_toJson (p : InitializeParams) : decoder.ofJson p.toJson = .ok p :=
  ofJson_written (by decide) (.given rfl (.given rfl
    (.given (Json.ofJson_map _ p.clientInfo.ofJson_toJson) .nil))) rfl rfl

theorem ListChanged.ofJson_toJson (c : ListChanged) : decoder.ofJson c.toJson = .ok c :=
  ofJson_written (by decide) (.given rfl .nil) rfl rfl

theorem ServerCapabilities.ofJson_toJson (c : ServerCapabilities) :
    decoder.ofJson c.toJson = .ok c := by
  have flag (c : ListChanged) : (Json.Decoder.option ListChanged.decoder).ofJson c.toJson =
    .ok (some c) := Json.ofJson_option (by simp [ListChanged.toJson]) c.ofJson_toJson
  refine ofJson_written (by decide)
    (.option c.tools (by decide) (fun t _ => Json.ofJson_map _ (flag t))
      (.option c.resources (by decide) (fun r _ => Json.ofJson_map _ (flag r)) .nil)) rfl ?_
  obtain ⟨tools, resources⟩ := c
  cases tools <;> cases resources <;> rfl

theorem ServerInfo.ofJson_toJson (i : ServerInfo) : decoder.ofJson i.toJson = .ok i :=
  ofJson_written (by decide) (.given rfl (.given rfl .nil)) rfl rfl

theorem InitializeResult.ofJson_toJson (r : InitializeResult) : decoder.ofJson r.toJson = .ok r :=
  ofJson_written (by decide) (.given rfl
    (.given (Json.ofJson_map _ r.capabilities.ofJson_toJson)
      (.given (Json.ofJson_map _ r.serverInfo.ofJson_toJson) .nil))) rfl rfl

/-! ### Tools -/

theorem ToolDefinition.ofJson_toJson (t : ToolDefinition) : decoder.ofJson t.toJson = .ok t :=
  ofJson_written (by decide) (.given rfl (.given rfl (.given rfl .nil))) rfl rfl

theorem ToolsList.ofJson_toJson (l : ToolsList) : decoder.ofJson l.toJson = .ok l :=
  ofJson_written (by decide)
    (.given (Json.ofJson_map _ (Json.ofJson_array fun t _ => t.ofJson_toJson)) .nil) rfl rfl

theorem ToolCall.ofJson_toJson (c : ToolCall) : decoder.ofJson c.toJson = .ok c :=
  ofJson_written (by decide) (.given rfl (.given rfl .nil)) rfl rfl

theorem ContentBlock.ofJson_toJson (b : ContentBlock) : decoder.ofJson b.toJson = .ok b := rfl

theorem ToolResult.ofJson_toJson (r : ToolResult) : decoder.ofJson r.toJson = .ok r := by
  have content : Json.Decoder.ofJson (.list ContentBlock.decoder)
    (.array (r.content.map ContentBlock.toJson)) = .ok r.content :=
      Json.ofJson_array fun b _ => b.ofJson_toJson
  obtain ⟨blocks, failed⟩ := r
  cases failed with
  | false =>
    exact ofJson_written (by decide)
      (.given (Json.ofJson_map _ content) (.leftOut (by decide) .nil)) rfl rfl
  | true =>
    exact ofJson_written (by decide)
      (.given (Json.ofJson_map _ content) (.given rfl .nil)) rfl rfl

/-! ### Resources -/

theorem ResourceDefinition.ofJson_toJson (r : ResourceDefinition) :
    decoder.ofJson r.toJson = .ok r := by
  refine ofJson_written (by decide) (.given rfl (.given rfl
    (.option r.description (by decide) (fun _ _ => rfl)
      (.option r.mimeType (by decide) (fun _ _ => rfl) .nil)))) rfl ?_
  obtain ⟨uri, name, description, mimeType⟩ := r
  cases description <;> cases mimeType <;> rfl

theorem ResourcesList.ofJson_toJson (l : ResourcesList) : decoder.ofJson l.toJson = .ok l :=
  ofJson_written (by decide)
    (.given (Json.ofJson_map _ (Json.ofJson_array fun r _ => r.ofJson_toJson)) .nil) rfl rfl

theorem ResourceTemplate.ofJson_toJson (r : ResourceTemplate) : decoder.ofJson r.toJson = .ok r := by
  refine ofJson_written (by decide) (.given rfl (.given rfl
    (.option r.description (by decide) (fun _ _ => rfl)
      (.option r.mimeType (by decide) (fun _ _ => rfl) .nil)))) rfl ?_
  obtain ⟨uriTemplate, name, description, mimeType⟩ := r
  cases description <;> cases mimeType <;> rfl

theorem ResourceTemplatesList.ofJson_toJson (l : ResourceTemplatesList) :
    decoder.ofJson l.toJson = .ok l :=
  ofJson_written (by decide)
    (.given (Json.ofJson_map _ (Json.ofJson_array fun r _ => r.ofJson_toJson)) .nil) rfl rfl

theorem ResourceRead.ofJson_toJson (r : ResourceRead) : decoder.ofJson r.toJson = .ok r :=
  ofJson_written (by decide) (.given rfl .nil) rfl rfl

theorem ResourceContents.ofJson_toJson (r : ResourceContents) : decoder.ofJson r.toJson = .ok r :=
  ofJson_written (by decide) (.given rfl (.given rfl (.given rfl .nil))) rfl rfl

theorem ResourceReadResult.ofJson_toJson (r : ResourceReadResult) :
    decoder.ofJson r.toJson = .ok r :=
  ofJson_written (by decide)
    (.given (Json.ofJson_map _ (Json.ofJson_array fun c _ => c.ofJson_toJson)) .nil) rfl rfl

end Wire

namespace Rpc

open Json (Written)
open Json.Layout (ofJson_holds ofJson_written)

variable {j : Json}

/-! ### Ids -/

/-- An id that a value can be: no integer is too great. -/
def RequestId.Receivable (id : RequestId) : Prop := ofJson? id.toJson = some id

/-- An id is encoded as the value that it was. -/
theorem RequestId.toJson_of_ofJson? {id : RequestId} (taken : ofJson? j = some id) :
    id.toJson = j := by
  unfold ofJson? at taken
  split at taken
  · obtain rfl := Option.some.inj taken
    rfl
  · split at taken
    · obtain rfl := Option.some.inj taken
      rfl
    · cases taken
  · obtain rfl := Option.some.inj taken
    rfl
  · cases taken

/-- The identifiers that can be received are those that are taken. -/
theorem RequestId.receivable_of_ofJson? {id : RequestId} (taken : ofJson? j = some id) :
    id.Receivable := by
  rw [Receivable, toJson_of_ofJson? taken, taken]

/-- An identifier is decoded as it is taken. -/
theorem RequestId.ofJson_eq_ok_iff {id : RequestId} :
    decoder.ofJson j = .ok id ↔ ofJson? j = some id := by
  dsimp only [decoder]
  cases ofJson? j <;> simp

/-! ### Requests -/

/-- A request that can be received: parameters that are there are not null. -/
structure Request.Receivable (r : Request) : Prop where
  id : ∀ id ∈ r.id, id.Receivable
  params : r.params ≠ some .null

/-- A request that was decoded is one that can be received. -/
theorem Request.receivable_of_decoded {r : Request} (decoded : decoder.ofJson j = .ok r) :
    r.Receivable := by
  refine ofJson_holds layout ⟨nofun, nofun⟩ ?_ decoded
  intro f known part _ change taken record held
  simp only [layout, List.mem_cons, List.not_mem_nil, or_false] at known
  rcases known with rfl | rfl | rfl | rfl <;> obtain ⟨_, given, rfl⟩ := Json.map_eq_ok_iff.1 taken
  · exact ⟨held.id, held.params⟩
  · refine ⟨?_, held.params⟩
    rintro _ ⟨⟩
    exact RequestId.receivable_of_ofJson? (RequestId.ofJson_eq_ok_iff.1 given)
  · exact ⟨held.id, held.params⟩
  · exact ⟨held.id, Json.ofJson_option_any given⟩

/-- A request that can be received comes back as it was sent. -/
theorem Request.Receivable.ofJson_toJson {r : Request} (h : r.Receivable) :
    decoder.ofJson r.toJson = .ok r := by
  have given := Json.ofJson_option_of_ne h.params
  refine ofJson_written (by decide) (.given rfl
    (.option r.id (by decide)
      (fun id here => Json.ofJson_map _ (RequestId.ofJson_eq_ok_iff.2 (h.id id here)))
      (.given rfl
        (.whole r.params (by decide) (fun p here => Json.ofJson_map _ (given p here)) .nil))))
    rfl ?_
  obtain ⟨version, id, method, params⟩ := r
  cases id <;> cases params <;> rfl

/-! ### Responses -/

/-- An error that can be received. -/
structure ErrorObject.Receivable (e : ErrorObject) : Prop where
  code : Json.Decoder.int32.ofJson (.integer e.code) = .ok e.code
  data : e.data ≠ some .null

/-- An integer of 32 bits comes back as it was sent. -/
theorem ofJson_int32 {n : Int} (decoded : Json.Decoder.int32.ofJson j = .ok n) :
    Json.Decoder.int32.ofJson (.integer n) = .ok n := by
  cases j with
  | integer m =>
    change (if _ then Except.ok m else .error _) = _ at decoded
    split at decoded
    · next small =>
      obtain rfl := Except.ok.inj decoded
      exact if_pos small
    · cases decoded
  | _ => cases decoded

/-- An error that was decoded is one that can be received. -/
theorem ErrorObject.receivable_of_decoded {e : ErrorObject} (decoded : decoder.ofJson j = .ok e) :
    e.Receivable := by
  refine ofJson_holds layout ⟨rfl, nofun⟩ ?_ decoded
  intro f known part _ change taken record held
  simp only [layout, List.mem_cons, List.not_mem_nil, or_false] at known
  rcases known with rfl | rfl | rfl <;> obtain ⟨_, given, rfl⟩ := Json.map_eq_ok_iff.1 taken
  · exact ⟨ofJson_int32 given, held.data⟩
  · exact ⟨held.code, held.data⟩
  · exact ⟨held.code, Json.ofJson_option_any given⟩

/-- An error that can be received comes back as it was sent. -/
theorem ErrorObject.Receivable.ofJson_toJson {e : ErrorObject} (h : e.Receivable) :
    decoder.ofJson e.toJson = .ok e := by
  have given := Json.ofJson_option_of_ne h.data
  refine ofJson_written (by decide) (.given (Json.ofJson_map _ h.code) (.given rfl
    (.whole e.data (by decide) (fun d here => Json.ofJson_map _ (given d here)) .nil))) rfl ?_
  obtain ⟨code, message, data⟩ := e
  cases data <;> rfl

/-- A response that can be received: an id that is null is as good as none. -/
structure Response.Receivable (r : Response) : Prop where
  id : ∀ id ∈ r.id, id.Receivable ∧ id ≠ .null
  result : r.result ≠ some .null
  error : ∀ e ∈ r.error, e.Receivable

/-- A response that was decoded is one that can be received. -/
theorem Response.receivable_of_decoded {r : Response} (decoded : decoder.ofJson j = .ok r) :
    r.Receivable := by
  refine ofJson_holds layout ⟨nofun, nofun, nofun⟩ ?_ decoded
  intro f known part _ change taken record held
  simp only [layout, List.mem_cons, List.not_mem_nil, or_false] at known
  rcases known with rfl | rfl | rfl | rfl <;> obtain ⟨_, given, rfl⟩ := Json.map_eq_ok_iff.1 taken
  · exact ⟨held.id, held.result, held.error⟩
  · refine ⟨?_, held.result, held.error⟩
    rintro id ⟨⟩
    obtain ⟨there, given⟩ := Json.ofJson_option_some given
    have taken := RequestId.ofJson_eq_ok_iff.1 given
    refine ⟨RequestId.receivable_of_ofJson? taken, ?_⟩
    rintro rfl
    exact there (RequestId.toJson_of_ofJson? taken).symm
  · exact ⟨held.id, Json.ofJson_option_any given, held.error⟩
  · refine ⟨held.id, held.result, ?_⟩
    rintro e ⟨⟩
    exact ErrorObject.receivable_of_decoded (Json.ofJson_option_some given).2

/-- A response that can be received comes back as it was sent. -/
theorem Response.Receivable.ofJson_toJson {r : Response} (h : r.Receivable) :
    decoder.ofJson r.toJson = .ok r := by
  have known : (Json.Decoder.option RequestId.decoder).ofJson
      ((r.id.map RequestId.toJson).getD .null) = .ok r.id := by
    cases same : r.id with
    | none => rfl
    | some id =>
      obtain ⟨receivable, there⟩ := h.id id same
      refine Json.ofJson_option ?_ (RequestId.ofJson_eq_ok_iff.2 receivable)
      cases id <;> simp_all [RequestId.toJson]
  have given := Json.ofJson_option_of_ne h.result
  have failed : ∀ e ∈ r.error, (Json.Decoder.option ErrorObject.decoder).ofJson e.toJson =
      .ok (some e) := fun e here =>
    Json.ofJson_option (by simp [ErrorObject.toJson, Json.record]) (h.error e here).ofJson_toJson
  refine ofJson_written (by decide) (.given rfl (.given (Json.ofJson_map _ known)
    (.whole r.result (by decide) (fun j here => Json.ofJson_map _ (given j here))
      (.option r.error (by decide) (fun e here => Json.ofJson_map _ (failed e here)) .nil)))) rfl ?_
  obtain ⟨version, id, result, error⟩ := r
  cases result <;> cases error <;> rfl

/-! ### Ids as they were given -/

/-- The value in the place of the id: under its key, or the second in a list. -/
def Request.givenId? : Json → Option Json
  | .object fields => Json.lookup? "id" fields
  | .array items => items[1]?
  | _ => none

/-- A request that is decoded has the id that was given, and none if none was. -/
theorem Request.map_id_of_decoded {r : Request} (once : j.KeysOnce)
    (decoded : decoder.ofJson j = .ok r) : r.id.map RequestId.toJson = givenId? j := by
  cases j with
  | object fields =>
    have same := Server.id_of_decoded once.fields.1 decoded
    rw [givenId?]
    cases found : Json.lookup? "id" fields with
    | none =>
      rw [same, found]
      rfl
    | some given =>
      rw [found] at same
      cases taken : RequestId.ofJson? given with
      | none =>
        obtain ⟨_, ⟨⟩, missing⟩ := (Server.id_eq_none_iff decoded).1 (same.trans taken)
        exact absurd (List.mem_map_of_mem (Json.mem_of_lookup? found)) missing
      | some id =>
        rw [same.trans taken, Option.map_some, RequestId.toJson_of_ofJson? taken]
  | array items =>
    obtain ⟨given, id, place, taken, same⟩ := Server.id_of_items decoded
    rw [same, Option.map_some, RequestId.toJson_of_ofJson? taken]
    exact place.symm
  | _ => cases decoded

/-- The id that a request is encoded with is the one it was given. -/
theorem Request.field?_id_of_decoded {r : Request} (once : j.KeysOnce)
    (decoded : decoder.ofJson j = .ok r) : r.toJson.field? "id" = givenId? j := by
  rw [← map_id_of_decoded once decoded]
  obtain ⟨version, id, method, params⟩ := r
  cases id <;> cases params <;> rfl

end Rpc

namespace Wire

open Rpc (ErrorObject Request RequestId Response)

/-! ### The whole protocol -/

/-- Requests and what they are answered. -/
def rpcFormats : List Format := [
  ⟨RequestId, RequestId.decoder, RequestId.toJson⟩,
  ⟨Request, Request.decoder, Request.toJson⟩,
  ⟨ErrorObject, ErrorObject.decoder, ErrorObject.toJson⟩,
  ⟨Response, Response.decoder, Response.toJson⟩]

/-- What the parameters and the results of methods are made of. -/
def methodFormats : List Format := [
  ⟨ClientInfo, ClientInfo.decoder, ClientInfo.toJson⟩,
  ⟨InitializeParams, InitializeParams.decoder, InitializeParams.toJson⟩,
  ⟨ListChanged, ListChanged.decoder, ListChanged.toJson⟩,
  ⟨ServerCapabilities, ServerCapabilities.decoder, ServerCapabilities.toJson⟩,
  ⟨ServerInfo, ServerInfo.decoder, ServerInfo.toJson⟩,
  ⟨InitializeResult, InitializeResult.decoder, InitializeResult.toJson⟩,
  ⟨ToolDefinition, ToolDefinition.decoder, ToolDefinition.toJson⟩,
  ⟨ToolsList, ToolsList.decoder, ToolsList.toJson⟩,
  ⟨ToolCall, ToolCall.decoder, ToolCall.toJson⟩,
  ⟨ContentBlock, ContentBlock.decoder, ContentBlock.toJson⟩,
  ⟨ToolResult, ToolResult.decoder, ToolResult.toJson⟩,
  ⟨ResourceDefinition, ResourceDefinition.decoder, ResourceDefinition.toJson⟩,
  ⟨ResourcesList, ResourcesList.decoder, ResourcesList.toJson⟩,
  ⟨ResourceTemplate, ResourceTemplate.decoder, ResourceTemplate.toJson⟩,
  ⟨ResourceTemplatesList, ResourceTemplatesList.decoder, ResourceTemplatesList.toJson⟩,
  ⟨ResourceRead, ResourceRead.decoder, ResourceRead.toJson⟩,
  ⟨ResourceContents, ResourceContents.decoder, ResourceContents.toJson⟩,
  ⟨ResourceReadResult, ResourceReadResult.decoder, ResourceReadResult.toJson⟩]

/-- The formats of requests and responses are stable. -/
theorem stable_rpcFormats : ∀ f ∈ rpcFormats, f.Stable := by
  simp only [rpcFormats, List.forall_mem_cons, List.not_mem_nil, false_implies, implies_true,
    and_true]
  refine ⟨fun j id decoded => ?_, fun j r decoded => ?_, fun j e decoded => ?_, fun j r decoded => ?_⟩
  · have taken := RequestId.ofJson_eq_ok_iff.1 decoded
    exact RequestId.ofJson_eq_ok_iff.2 (RequestId.receivable_of_ofJson? taken)
  · exact (Request.receivable_of_decoded decoded).ofJson_toJson
  · exact (ErrorObject.receivable_of_decoded decoded).ofJson_toJson
  · exact (Response.receivable_of_decoded decoded).ofJson_toJson

/-- The formats of methods come back as they were sent. -/
theorem faithful_methodFormats : ∀ f ∈ methodFormats, f.Faithful := by
  simp only [methodFormats, List.forall_mem_cons, List.not_mem_nil, false_implies, implies_true,
    and_true]
  exact ⟨ClientInfo.ofJson_toJson, InitializeParams.ofJson_toJson, ListChanged.ofJson_toJson,
    ServerCapabilities.ofJson_toJson, ServerInfo.ofJson_toJson, InitializeResult.ofJson_toJson,
    ToolDefinition.ofJson_toJson, ToolsList.ofJson_toJson, ToolCall.ofJson_toJson,
    ContentBlock.ofJson_toJson, ToolResult.ofJson_toJson, ResourceDefinition.ofJson_toJson,
    ResourcesList.ofJson_toJson, ResourceTemplate.ofJson_toJson,
    ResourceTemplatesList.ofJson_toJson, ResourceRead.ofJson_toJson,
    ResourceContents.ofJson_toJson, ResourceReadResult.ofJson_toJson⟩

/-- Whatever is decoded in a format of the protocol is decoded again from what it is encoded as, and
a request is encoded with the id that it was given: none, null, a text or an integer. -/
theorem formats_stable :
    (∀ f ∈ rpcFormats ++ methodFormats, f.Stable) ∧
    ∀ j r, j.KeysOnce → Request.decoder.ofJson j = .ok r →
      r.toJson.field? "id" = Request.givenId? j := by
  refine ⟨fun f member => ?_, fun j r once decoded => Request.field?_id_of_decoded once decoded⟩
  rcases List.mem_append.1 member with rpc | method
  · exact stable_rpcFormats f rpc
  · exact (faithful_methodFormats f method).stable

/-- A request in the form of a list, with the id null. -/
theorem formats_stable_of_list :
    let given : Json := .array [.string "2.0", .null, .string "ping"]
    let ping : Request := ⟨"2.0", some .null, "ping", none⟩
    Request.decoder.ofJson given = .ok ping ∧ Request.decoder.ofJson ping.toJson = .ok ping ∧
      ping.toJson.field? "id" = some .null := by
  intro given ping
  have decoded : Request.decoder.ofJson given = .ok ping := rfl
  have once : given.KeysOnce := .array (by
    rintro j (_ | ⟨_, _ | ⟨_, _ | ⟨_, ⟨⟩⟩⟩⟩) <;> exact .flat rfl)
  refine ⟨decoded, ?_, formats_stable.2 given ping once decoded⟩
  exact formats_stable.1 ⟨Request, Request.decoder, Request.toJson⟩
    (List.mem_append_left _ (.tail _ (.head _))) given ping decoded

end Wire
end DataShelf
