import DataShelf.Proofs.Declarations
import DataShelf.Proofs.ReadBack
import DataShelf.Server.Handler

/-!
# Responses as text

What a method answers can be sent (`sendable_outcome`): a result whose text gives it back, or an error
of which that holds. So a response is one line of text that is read as the response (`Framed`). Its id
comes from the request along two ways, from the request that was decoded or from the value that is
none, and both are the id under `id` of an object (`id_of_decoded`, `framed_requestOf`).
-/

namespace DataShelf
set_option autoImplicit false

namespace Json

@[simp] theorem exact_null (depth : Nat) : Exact depth .null := .null

@[simp] theorem exact_bool (depth : Nat) (b : Bool) : Exact depth (.bool b) := .bool b

@[simp] theorem exact_string (depth : Nat) (s : String) : Exact depth (.string s) := .string s

@[simp] theorem exact_integer_iff {depth : Nat} {n : Int} : Exact depth (.integer n) ↔ Fits n := by
  constructor
  · rintro ⟨⟩
    assumption
  · exact .integer

@[simp] theorem exact_array_iff {depth : Nat} {items : List Json} :
    Exact (depth + 1) (.array items) ↔ ∀ j ∈ items, Exact depth j := by
  constructor
  · rintro ⟨⟩
    assumption
  · exact .array

@[simp] theorem exact_object_iff {depth : Nat} {fields : Fields} :
    Exact (depth + 1) (.object fields) ↔
      (fields.map (·.1)).Nodup ∧ ∀ e ∈ fields, Exact depth e.2 := by
  constructor
  · rintro ⟨⟩
    exact ⟨by assumption, by assumption⟩
  · exact fun h => .object h.1 h.2

/-- A record of distinct keys is an object that names each key once, whatever has a value. -/
theorem exact_record {depth : Nat} {fields : List (String × Option Json)}
    (once : (fields.map (·.1)).Nodup) (inside : ∀ e ∈ fields, ∀ j ∈ e.2, Exact depth j) :
    Exact (depth + 1) (record fields) := by
  rw [record, exact_object_iff]
  constructor
  · have keys : ((fields.filterMap fun e => e.2.map fun j => (e.1, j)).map (·.1)).Sublist
        (fields.map (·.1)) := by
      clear once inside
      induction fields with
      | nil => exact .slnil
      | cons e fields ih =>
        obtain ⟨key, j⟩ := e
        cases j with
        | none => exact ih.cons _
        | some j => exact ih.cons_cons _
    exact once.sublist keys
  · intro e member
    obtain ⟨⟨key, j⟩, given, found⟩ := List.mem_filterMap.1 member
    obtain ⟨j, here, rfl⟩ := Option.map_eq_some_iff.1 found
    exact inside (key, _) given j here

end Json

namespace Server

open Json (Exact Fits)
open Rpc (ErrorCode ErrorObject Request RequestId Response)

/-! ### Results -/

/-- The introduction of the server is read back. -/
theorem exact_introduction (s : Server) : Exact 126 s.introduction.toJson := by
  simp [introduction, Wire.InitializeResult.toJson, Wire.ServerCapabilities.toJson,
    Wire.ServerInfo.toJson, Wire.ListChanged.toJson, Json.record]

/-- The list of tools is read back. -/
theorem exact_toolsList : Exact 126 (Wire.ToolsList.toJson ⟨Tool.all.map Tool.definition⟩) := by
  simp [Wire.ToolsList.toJson, Wire.ToolDefinition.toJson, Tool.definition, Tool.inputSchema,
    Json.texts, Tool.all, Tool.parameters]

/-- The result of a tool is read back. -/
theorem exact_toolResult (r : Wire.ToolResult) : Exact 126 r.toJson := by
  refine Json.exact_record (by simp) ?_
  simp [Wire.ContentBlock.toJson]

theorem exact_resourcesList (l : Wire.ResourcesList) : Exact 126 l.toJson := by
  have each (r : Wire.ResourceDefinition) : Exact 124 r.toJson :=
    Json.exact_record (by simp) (by simp)
  simp [Wire.ResourcesList.toJson, each]

theorem exact_resourceTemplatesList (l : Wire.ResourceTemplatesList) : Exact 126 l.toJson := by
  have each (r : Wire.ResourceTemplate) : Exact 124 r.toJson :=
    Json.exact_record (by simp) (by simp)
  simp [Wire.ResourceTemplatesList.toJson, each]

theorem exact_resourceRead (r : Wire.ResourceReadResult) : Exact 126 r.toJson := by
  simp [Wire.ResourceReadResult.toJson, Wire.ResourceContents.toJson]

/-- An outcome that its text gives back: a result of the right kind, or an error with a code of 64
bits and nothing besides its message. -/
def Sendable : Except ErrorObject Json → Prop
  | .ok j => Exact 126 j
  | .error e => Fits e.code ∧ e.data = none

theorem sendable_refusal (code : ErrorCode) (fits : Fits code.code) (message : String) :
    Sendable (.error (.of code message)) :=
  ⟨fits, rfl⟩

/-- What is said of parameters that are not decoded can be sent. -/
theorem sendable_decodeParams {α : Type} {d : Json.Decoder α} {what : String} {params : Option Json}
    {e : ErrorObject} (refused : decodeParams d what params = .error e) : Sendable (.error e) := by
  have fits : Fits ErrorCode.invalidParams.code := by decide
  unfold decodeParams at refused
  split at refused
  · cases refused
    exact sendable_refusal _ fits _
  · split at refused
    · cases refused
    · cases refused
      exact sendable_refusal _ fits _

section Handling

variable (s : Server)

/-- What comes of a call can be sent. -/
theorem sendable_callTool (call : Wire.ToolCall) :
    Sendable ((s.callTool call).value.map Wire.ToolResult.toJson) := by
  have fits : Fits ErrorCode.invalidParams.code := by decide
  unfold callTool
  split
  · exact sendable_refusal _ fits _
  · next tool named =>
    rw [Traced.value_bind]
    cases executed : (tool.execute s.gateway call.arguments).value with
    | ok j => exact exact_toolResult _
    | error e =>
      dsimp only
      split
      · next invalid =>
        cases e <;> simp [ToolError.isInvalidParams] at invalid
        exact ⟨fits, rfl⟩
      · exact exact_toolResult _

/-- What a method answers can be sent. -/
theorem sendable_answer (m : Method) (params : Option Json) :
    Sendable (s.answer m params).value := by
  cases m with
  | introduce =>
    show Sendable ((decodeParams _ _ params).map _)
    cases decoded : decodeParams Wire.InitializeParams.decoder "initialize" params with
    | error e => exact sendable_decodeParams decoded
    | ok p => exact exact_introduction s
  | initialized => exact .object .nil nofun
  | ping => exact .object .nil nofun
  | toolsList => exact exact_toolsList
  | toolsCall =>
    unfold answer
    cases decoded : decodeParams Wire.ToolCall.decoder "tool call" params with
    | error e => exact sendable_decodeParams decoded
    | ok call => exact sendable_callTool s call
  | resourcesList => exact exact_resourcesList _
  | resourceTemplatesList => exact exact_resourceTemplatesList _
  | resourcesRead =>
    unfold answer
    cases decoded : decodeParams Wire.ResourceRead.decoder "resource read" params with
    | error e => exact sendable_decodeParams decoded
    | ok read => exact exact_resourceRead _

/-- What comes of a request can be sent. -/
theorem sendable_outcome (r : Request) : Sendable (s.outcome r).value := by
  unfold outcome
  split
  · exact sendable_answer s _ _
  · exact sendable_refusal _ (by decide) _

end Handling

/-! ### The ids of requests -/

section Ids

variable {request request' : Request} {j : Json} {fields : Json.Fields}

/-- The field of a request that holds its id. -/
def idField : Json.Field Request :=
  .defaulted "id" RequestId.decoder fun id r => { r with id := some id }

/-- The member that is taken as the identifier is one. -/
theorem id_of_change {change : Request → Request} (taken : idField.decoder.ofJson j = .ok change) :
    ∃ id, RequestId.ofJson? j = some id ∧ ∀ request, (change request).id = some id := by
  obtain ⟨id, found, rfl⟩ := Json.map_eq_ok_iff.1 taken
  refine ⟨id, ?_, fun _ => rfl⟩
  dsimp only [RequestId.decoder] at found
  split at found
  · next id' known => rw [known, Except.ok.inj found]
  · cases found

/-- A request takes the identifier that it was given. -/
theorem takeField_id (taken : Request.layout.takeField request ("id", j) = .ok request') :
    ∃ id, RequestId.ofJson? j = some id ∧ request'.id = some id := by
  change (idField.decoder.ofJson j).map _ = _ at taken
  obtain ⟨change, decoded, rfl⟩ := Json.map_eq_ok_iff.1 taken
  obtain ⟨id, found, kept⟩ := id_of_change decoded
  exact ⟨id, found, kept request⟩

/-- A field of a request that is not its id leaves that as it is, and so it is with its
parameters. -/
theorem takeField_keeps {key : String}
    (taken : Request.layout.takeField request (key, j) = .ok request') :
    (key ≠ "id" → request'.id = request.id) ∧
    (key ≠ "params" → request'.params = request.params) := by
  unfold Json.Layout.takeField at taken
  split at taken
  · next f known =>
    obtain ⟨change, decoded, rfl⟩ := Json.map_eq_ok_iff.1 taken
    have named : f.name = key := by simpa using List.find?_some known
    have member := List.mem_of_find?_eq_some known
    simp only [Request.layout, List.mem_cons, List.not_mem_nil, or_false] at member
    rcases member with rfl | rfl | rfl | rfl
    · obtain ⟨_, -, rfl⟩ := Json.map_eq_ok_iff.1 decoded
      exact ⟨fun _ => rfl, fun _ => rfl⟩
    · obtain ⟨_, -, rfl⟩ := Json.map_eq_ok_iff.1 decoded
      exact ⟨fun other => absurd named.symm other, fun _ => rfl⟩
    · obtain ⟨_, -, rfl⟩ := Json.map_eq_ok_iff.1 decoded
      exact ⟨fun _ => rfl, fun _ => rfl⟩
    · obtain ⟨_, -, rfl⟩ := Json.map_eq_ok_iff.1 decoded
      exact ⟨fun _ => rfl, fun other => absurd named.symm other⟩
  · rw [Except.ok.inj taken]
    exact ⟨fun _ => rfl, fun _ => rfl⟩

/-- A request that an object decodes to has the id of the object, if that is one. -/
theorem id_of_decoded (once : (fields.map (·.1)).Nodup)
    (decoded : Request.decoder.ofJson (.object fields) = .ok request) :
    request.id = (Json.lookup? "id" fields).bind RequestId.ofJson? := by
  have own : ∀ j request request', Request.layout.takeField request ("id", j) = .ok request' →
      request'.id = RequestId.ofJson? j := by
    intro j request request' taken
    obtain ⟨id, found, kept⟩ := takeField_id taken
    rw [kept, found]
  rw [Request.layout.part_of_object Request.id own
    (fun key j request request' other taken => (takeField_keeps taken).1 other) once decoded]
  cases Json.lookup? "id" fields <;> rfl

/-- An id that its text gives back. -/
def IdFits (id : Option RequestId) : Prop := ∀ n, id = some (.number n) → Fits n

/-- Only an integer is a number as identifier. -/
theorem integer_of_number {n : Int} (found : RequestId.ofJson? j = some (.number n)) :
    j = .integer n := by
  unfold RequestId.ofJson? at found
  split at found
  · cases found
  · split at found
    · rw [RequestId.number.inj (Option.some.inj found)]
    · cases found
  · cases found
  · cases found

/-- The id of a request that is decoded is one that its text gives back. -/
theorem idFits_of_decoded (fits : ∀ n, .integer n ∈ j.parts → Fits n)
    (decoded : Request.decoder.ofJson j = .ok request) : IdFits request.id := by
  refine Json.Layout.ofJson_holds Request.layout (P := fun r => IdFits r.id) nofun ?_ decoded
  intro f known part member change taken record held
  simp only [Request.layout, List.mem_cons, List.not_mem_nil, or_false] at known
  rcases known with rfl | rfl | rfl | rfl
  · obtain ⟨_, -, rfl⟩ := Json.map_eq_ok_iff.1 taken
    exact held
  · obtain ⟨id, found, kept⟩ := id_of_change taken
    rintro n same
    obtain rfl : id = .number n := Option.some.inj ((kept record).symm.trans same)
    exact fits n (integer_of_number found ▸ member)
  · obtain ⟨_, -, rfl⟩ := Json.map_eq_ok_iff.1 taken
    exact held
  · obtain ⟨_, -, rfl⟩ := Json.map_eq_ok_iff.1 taken
    exact held

end Ids

/-! ### Responses -/

/-- The id in a response, null where there is none. -/
def idJson (id : Option RequestId) : Json := (id.map RequestId.toJson).getD .null

/-- What is asked of the text of a response with an id: it is one line, it is read as the response,
and that has the version, the id, and a result or an error and not both. -/
structure Framed (r : Response) (id : Json) : Prop where
  oneLine : ∀ c ∈ (Json.compact r.toJson).toList, c ≠ '\n' ∧ c ≠ '\r'
  readBack : Json.read (Json.compact r.toJson) = .ok r.toJson
  version : r.toJson.field? "jsonrpc" = some (.string "2.0")
  either : (r.toJson.field? "result").isSome ≠ (r.toJson.field? "error").isSome
  id : r.toJson.field? "id" = some id

section Framed

variable {id : Option RequestId}

/-- An identifier is read back. -/
theorem exact_idJson (fits : IdFits id) (depth : Nat) : Exact depth (idJson id) := by
  cases id with
  | none => exact .null
  | some id =>
    cases id with
    | text s => exact .string s
    | number n => exact .integer (fits n rfl)
    | null => exact .null

/-- The text of a value has no line end in it. -/
theorem oneLine_of_exact {depth : Nat} {j : Json} (exact : Exact depth j) :
    ∀ c ∈ (Json.compact j).toList, c ≠ '\n' ∧ c ≠ '\r' := by
  intro c member
  rw [Json.compact, String.toList_ofList] at member
  have printable := Json.printable_write exact c member
  constructor <;> rintro rfl <;> exact absurd printable (by decide)

/-- A success is framed under its identifier. -/
theorem framed_success (fits : IdFits id) {result : Json} (exact : Exact 126 result) :
    Framed (.success id result) (idJson id) := by
  have text : (Response.success id result).toJson =
    .object [("jsonrpc", .string "2.0"), ("id", idJson id), ("result", result)] := rfl
  have whole : Exact Json.nestings (Response.success id result).toJson := by
    rw [text]
    exact .object (by simp) (by simp [exact_idJson fits, exact])
  refine ⟨oneLine_of_exact whole, Json.read_compact whole, rfl, ?_, rfl⟩
  show true ≠ false
  decide

/-- A failure is framed under its identifier. -/
theorem framed_failure (fits : IdFits id) {error : ErrorObject}
    (sendable : Sendable (.error error)) :
    Framed (.failure id error) (idJson id) := by
  obtain ⟨code, bare⟩ := sendable
  have text : (Response.failure id error).toJson =
    .object [("jsonrpc", .string "2.0"), ("id", idJson id), ("error", error.toJson)] := rfl
  have inner : Exact 126 error.toJson := by
    refine Json.exact_record (by simp) ?_
    simp [code, bare]
  have whole : Exact Json.nestings (Response.failure id error).toJson := by
    rw [text]
    exact .object (by simp) (by simp [exact_idJson fits, inner])
  refine ⟨oneLine_of_exact whole, Json.read_compact whole, rfl, ?_, rfl⟩
  show false ≠ true
  decide

/-- A response to an outcome that can be sent is framed. -/
theorem framed_respond (fits : IdFits id) {outcome : Except ErrorObject Json}
    (sendable : Sendable outcome) : Framed (respond id outcome) (idJson id) := by
  cases outcome with
  | ok j => exact framed_success fits sendable
  | error e => exact framed_failure fits sendable

end Framed

/-! ### Requests and what they are answered -/

/-- The id that a request in JSON is answered with: its own if it is a text, null or an integer of
64 bits with a sign, and null otherwise. -/
def echoedId (j : Json) : Json :=
  match j.field? "id" with
  | some (.string s) => .string s
  | some (.integer n) => if -(Nat.pow 2 63 : Int) ≤ n ∧ n < Nat.pow 2 63 then .integer n else .null
  | _ => .null

/-- What stands under a key is a part of the object. -/
theorem mem_parts_of_field? {j part : Json} {key : String} (found : j.field? key = some part) :
    part ∈ j.parts := by
  cases j with
  | object fields => exact List.mem_map.2 ⟨_, Json.mem_of_lookup? found, rfl⟩
  | _ => cases found

/-- The identifier that is answered under is the one of the line. -/
theorem idJson_of_field {j : Json} (fits : ∀ n, .integer n ∈ j.parts → Fits n) :
    idJson ((j.field? "id").bind RequestId.ofJson?) = echoedId j := by
  unfold echoedId
  cases found : j.field? "id" with
  | none => rfl
  | some id =>
    cases id with
    | integer n =>
      have lower := (fits n (mem_parts_of_field? found)).1
      show idJson (if n ≤ RequestId.greatest then some (.number n) else none) = _
      dsimp only
      have same : n < Nat.pow 2 63 ↔ n ≤ RequestId.greatest := Int.le_sub_one_iff.symm
      by_cases small : n ≤ RequestId.greatest
      · rw [if_pos small, if_pos ⟨lower, same.2 small⟩]
        rfl
      · rw [if_neg small, if_neg fun inside => small (same.1 inside.2)]
        rfl
    | _ => rfl

section Answers

variable (s : Server) {j : Json} {request : Request} {response : Response}

/-- A request that is answered is answered with its id. -/
theorem framed_handle (fits : IdFits request.id)
    (answered : (s.handle request).value = some response) : Framed response (idJson request.id) := by
  unfold handle at answered
  split at answered
  · rw [Traced.value_bind, Traced.value_pure] at answered
    split at answered
    · cases answered
    · cases answered
      exact framed_respond fits (sendable_outcome s request)
  · cases answered
    exact framed_failure fits (sendable_refusal _ (by decide) _)

/-- What is answered to what was parsed. -/
def answerTo : Except Response Request → Option Response
  | .error response => some response
  | .ok request => (s.handle request).value

/-- What is answered to a value has the id of the value, unless that is a list. -/
theorem framed_requestOf (once : j.KeysOnce) (fits : ∀ n, .integer n ∈ j.parts → Fits n)
    (answered : s.answerTo (requestOf j).value = some response) :
    ∃ id, Framed response (idJson id) ∧
      ((∀ items, j ≠ .array items) → id = (j.field? "id").bind RequestId.ofJson?) := by
  cases decoded : Request.decoder.ofJson j with
  | error m =>
    have own : IdFits ((j.field? "id").bind RequestId.ofJson?) := by
      intro n found
      obtain ⟨part, known, same⟩ := Option.bind_eq_some_iff.1 found
      exact fits n (integer_of_number same ▸ mem_parts_of_field? known)
    simp only [requestOf, decoded, Traced.value_bind, Traced.value_pure, answerTo,
      Option.some.injEq] at answered
    obtain rfl := answered
    exact ⟨_, framed_failure own (sendable_refusal _ (by decide) _), fun _ => rfl⟩
  | ok request =>
    simp only [requestOf, decoded, Traced.value_pure, answerTo] at answered
    refine ⟨request.id, framed_handle s (idFits_of_decoded fits decoded) answered, fun other => ?_⟩
    cases j with
    | object fields => exact id_of_decoded once.fields.1 decoded
    | array items => exact absurd rfl (other items)
    | _ => cases decoded

end Answers
end Server
end DataShelf
