import DataShelf.Proofs.Framing
import DataShelf.Proofs.Notifications
import DataShelf.Proofs.ToolCalls

/-!
# Errors of requests, and failures that are results

An error as a response says that nothing was done (`calls_of_error`). A call of a tool is answered so
exactly if there is something wrong with the call itself (`BadCall`, `answer_call_cases`); whatever
fails behind that, in the catalog, the session or the engine, is told in a result. Reading a resource
is always answered by a result, whose media type says whether the resource was read (`value_read`).
-/

namespace DataShelf.Server
set_option autoImplicit false

open Query (Gateway)
open Rpc (ErrorObject Request RequestId Response)
open Wire (ResourceRead ResourceReadResult ToolCall ToolResult)

/-! ### The parameters of requests -/

/-- The parameters that an object gives a request: what is null is as good as left out. -/
def givenParams : Option Json → Option Json
  | none => none
  | some .null => none
  | some j => some j

section Params

variable {fields : Json.Fields} {request request' : Request} {j : Json}

theorem takeField_params (taken : Request.layout.takeField request ("params", j) = .ok request') :
    request'.params = givenParams (some j) := by
  change ((Json.Decoder.map _ (Json.Decoder.option .any)).ofJson j).map _ = _ at taken
  obtain ⟨change, decoded, rfl⟩ := Json.map_eq_ok_iff.1 taken
  obtain ⟨params, found, rfl⟩ := Json.map_eq_ok_iff.1 decoded
  cases j <;> exact (Except.ok.inj found).symm

/-- A request that an object decodes to has the parameters of the object. -/
theorem params_of_decoded (once : (fields.map (·.1)).Nodup)
    (decoded : Request.decoder.ofJson (.object fields) = .ok request) :
    request.params = givenParams (Json.lookup? "params" fields) := by
  rw [Request.layout.part_of_object Request.params
    (fun j request request' => takeField_params)
    (fun key j request request' other taken => (takeField_keeps taken).2 other) once decoded]
  cases Json.lookup? "params" fields <;> rfl

end Params

/-! ### Calls of tools -/

/-- A tool is found under its name. -/
theorem ofName?_eq_some_iff {name : String} {tool : Tool} :
    Tool.ofName? name = some tool ↔ tool.name = name := by
  constructor
  · intro found
    simpa using List.find?_some found
  · rintro rfl
    cases tool <;> rfl

theorem ofName?_eq_none_iff {name : String} :
    Tool.ofName? name = none ↔ ∀ tool : Tool, tool.name ≠ name := by
  rw [Option.eq_none_iff_forall_ne_some]
  exact forall_congr' fun tool => not_congr ofName?_eq_some_iff

/-- What is wrong with a call of a tool: its parameters are not there or are none, there is no such
tool, or an argument is missing, is no text or is a query that is blank. -/
inductive BadCall : Option Json → Prop
  | absent : BadCall none
  | undecoded {j : Json} {m : Json.Mismatch} (refused : ToolCall.decoder.ofJson j = .error m) :
    BadCall (some j)
  | unknown {j : Json} {call : ToolCall} (decoded : ToolCall.decoder.ofJson j = .ok call)
    (unknown : ∀ tool : Tool, tool.name ≠ call.name) : BadCall (some j)
  | refused {j : Json} {call : ToolCall} {tool : Tool}
    (decoded : ToolCall.decoder.ofJson j = .ok call) (named : tool.name = call.name)
    (refuses : Refuses call.arguments tool) : BadCall (some j)

section Calls

variable (s : Server) {params : Option Json}

/-- A bad call is answered by an error of the protocol. -/
theorem answer_of_badCall (bad : BadCall params) :
    ∃ e, (s.answer .toolsCall params).value = .error e := by
  cases bad with
  | absent => exact ⟨_, rfl⟩
  | undecoded refused =>
    have undecoded := decodeParams_of_error "tool call" refused
    exact ⟨_, by rw [answer_of_undecoded_call s undecoded, Traced.value_pure]⟩
  | unknown decoded unknown =>
    rw [answer_of_call s (decodeParams_of_ok "tool call" decoded),
      callTool_of_unknown s (ofName?_eq_none_iff.2 unknown)]
    exact ⟨_, rfl⟩
  | refused decoded named refuses =>
    obtain ⟨m, same⟩ := callTool_of_refuses s (ofName?_eq_some_iff.2 named) refuses
    rw [answer_of_call s (decodeParams_of_ok "tool call" decoded), same]
    exact ⟨_, rfl⟩

/-- Nothing that fails behind a call with nothing wrong about it is an error of the request. -/
theorem answer_of_call_done (sound : ¬BadCall params) :
    ∃ text isError, (s.answer .toolsCall params).value =
      .ok (ToolResult.toJson ⟨[⟨text⟩], isError⟩) := by
  cases params with
  | none => exact absurd .absent sound
  | some j =>
    cases decoded : ToolCall.decoder.ofJson j with
    | error m => exact absurd (.undecoded decoded) sound
    | ok call =>
      rw [answer_of_call s (decodeParams_of_ok "tool call" decoded), Traced.value_map]
      cases named : Tool.ofName? call.name with
      | none => exact absurd (.unknown decoded (ofName?_eq_none_iff.1 named)) sound
      | some tool =>
        have accepts : ¬Refuses call.arguments tool := by
          intro refuses
          exact sound (.refused decoded (ofName?_eq_some_iff.1 named) refuses)
        obtain ⟨text, isError, answered⟩ := callTool_of_accepts s named accepts
        exact ⟨text, isError, by rw [answered]; rfl⟩

end Calls

/-! ### Reading resources -/

/-- Whether what an address leads to is there to be read. -/
def isReadable (g : Gateway) (limit : Nat) (uri : String) : Bool :=
  match ResourceUri.parse? uri with
  | none => false
  | some (.source name) => (g.catalog.source name).isOk
  | some (.table source table) => (g.previewTable source table limit).value.isOk
  | some (.sql query) => (g.runQuery query).value.isOk

/-- A source is read as JSON if it is there, and else as plain text. -/
theorem readSource_type (c : Catalog) (uri name : String) :
    ∃ text, Resources.readSource c uri name =
      ⟨uri, if (c.source name).isOk then "application/json" else "text/plain", text⟩ := by
  unfold Resources.readSource
  split
  · next found => exact ⟨_, by rw [found]; rfl⟩
  · next missing => exact ⟨_, by rw [missing]; rfl⟩

theorem ofOutcome_type (uri failure : String) (outcome : Except Query.QueryError Query.Result) :
    ∃ text, Resources.ofOutcome uri failure outcome =
      ⟨uri, if outcome.isOk then "application/json" else "text/plain", text⟩ := by
  cases outcome <;> exact ⟨_, rfl⟩

/-- What is read echoes the address, and its media type says whether it was read. -/
theorem value_read (g : Gateway) (limit : Nat) (uri : String) :
    ∃ text, (Resources.read g limit uri).value =
      ⟨uri, if isReadable g limit uri then "application/json" else "text/plain", text⟩ := by
  unfold Resources.read isReadable
  cases ResourceUri.parse? uri with
  | none => exact ⟨_, rfl⟩
  | some r =>
    cases r with
    | source name =>
      exact readSource_type g.catalog uri name
    | table source table => exact ofOutcome_type _ _ _
    | sql query => exact ofOutcome_type _ _ _

/-! ### Responses -/

section Responses

variable (s : Server)

/-- Where the response to a line is an error, the engine was asked for nothing. -/
theorem calls_of_error (initialized : Bool) {line : String} {response : Response}
    (answered : s.reply line = some response) (failed : response.error.isSome) :
    (respondTo s initialized line).calls = [] := by
  rw [calls_respondTo]
  rw [reply_eq] at answered
  cases parsed : (parseLine line).value with
  | error refusal => rfl
  | ok request =>
    rw [parsed] at answered
    exact calls_handle_of_error s answered failed

/-- A request that has a method is answered what the method answers, if it has an id. -/
theorem value_handle_of_method {request : Request} (version : request.version = "2.0")
    {m : Method} (named : Method.ofName? request.method = some m) :
    (s.handle request).value =
      request.id.map fun id => respond (some id) (s.answer m request.params).value := by
  rw [handle_of_version s version, Traced.value_map, outcome, named]

section Call

variable {request : Request} {id : RequestId}

/-- A request with a bad call is answered by an error of the protocol. -/
theorem handle_of_badCall (version : request.version = "2.0")
    (method : request.method = "tools/call") (own : request.id = some id)
    (bad : BadCall request.params) :
    ∃ e, (s.handle request).value = some (.failure (some id) e) := by
  obtain ⟨e, failed⟩ := answer_of_badCall s bad
  have named : Method.ofName? request.method = some .toolsCall := by rw [method]; rfl
  exact ⟨e, by rw [value_handle_of_method s version named, own, failed]; rfl⟩

/-- A request with any other call is answered by a result of one text. -/
theorem handle_of_call (version : request.version = "2.0")
    (method : request.method = "tools/call") (own : request.id = some id)
    (sound : ¬BadCall request.params) :
    ∃ text isError, (s.handle request).value =
      some (.success (some id) (ToolResult.toJson ⟨[⟨text⟩], isError⟩)) := by
  obtain ⟨text, isError, answered⟩ := answer_of_call_done s sound
  have named : Method.ofName? request.method = some .toolsCall := by rw [method]; rfl
  exact ⟨text, isError, by rw [value_handle_of_method s version named, own, answered]; rfl⟩

end Call

/-- Reading a resource gives what stands at its address, or why it was not read. -/
theorem outcome_of_read {request : Request} {params : Json} {read : ResourceRead}
    (method : request.method = "resources/read") (given : request.params = some params)
    (decoded : ResourceRead.decoder.ofJson params = .ok read) :
    ∃ text, (s.outcome request).value = .ok (ResourceReadResult.toJson ⟨[⟨read.uri,
      if isReadable s.gateway s.config.resultLimit read.uri then "application/json"
      else "text/plain", text⟩]⟩) := by
  obtain ⟨text, contents⟩ := value_read s.gateway s.config.resultLimit read.uri
  have named : Method.ofName? request.method = some .resourcesRead := by rw [method]; rfl
  refine ⟨text, ?_⟩
  rw [outcome, named]
  dsimp only
  rw [given, answer_of_read s (decodeParams_of_ok "resource read" decoded), Traced.value_map,
    contents]

/-- **Errors and results.** Where the response to a line is an error, the engine was asked for
nothing. A call of a tool that has an id is answered by an error exactly if there is something wrong
with the call, and by a result of one piece of text otherwise. Reading a resource whose parameters
decode gives a result of one item, which echoes the address; it is JSON exactly if what the address
leads to was read. The parameters of a request are those of the object that it came from, if they are
there and not null. -/
theorem errors_have_no_effect :
    (∀ initialized line response, s.reply line = some response → response.error.isSome →
      (respondTo s initialized line).calls = []) ∧
    (∀ line j request, Json.read line = .ok j → Request.decoder.ofJson j = .ok request →
      s.reply line = (s.handle request).value ∧
      ∀ fields, j = .object fields →
        request.params = givenParams (Json.lookup? "params" fields)) ∧
    (∀ request id, request.version = "2.0" → request.method = "tools/call" →
      request.id = some id →
      ((∃ e, (s.handle request).value = some (.failure (some id) e)) ↔ BadCall request.params) ∧
      (¬BadCall request.params → ∃ text isError, (s.handle request).value =
        some (.success (some id) (ToolResult.toJson ⟨[⟨text⟩], isError⟩)))) ∧
    ∀ request params read, request.version = "2.0" → request.method = "resources/read" →
      request.params = some params → ResourceRead.decoder.ofJson params = .ok read →
      ∃ text, (s.outcome request).value = .ok (ResourceReadResult.toJson ⟨[⟨read.uri,
          if isReadable s.gateway s.config.resultLimit read.uri then "application/json"
          else "text/plain", text⟩]⟩) ∧
        (s.handle request).value = request.id.map fun id =>
          .success (some id) (ResourceReadResult.toJson ⟨[⟨read.uri,
            if isReadable s.gateway s.config.resultLimit read.uri then "application/json"
            else "text/plain", text⟩]⟩) := by
  refine ⟨fun initialized line response => calls_of_error s initialized, ?_, ?_, ?_⟩
  · intro line j request read decoded
    refine ⟨respondTo_of_request s read decoded false, ?_⟩
    rintro fields rfl
    exact params_of_decoded (Json.keysOnce_of_read read).fields.1 decoded
  · intro request id version method own
    have done := s.handle_of_call version method own
    refine ⟨⟨?_, s.handle_of_badCall version method own⟩, done⟩
    rintro ⟨e, failed⟩
    by_contra sound
    obtain ⟨text, isError, answered⟩ := done sound
    rw [failed] at answered
    cases answered
  · intro request params read version method given decoded
    obtain ⟨text, answered⟩ := s.outcome_of_read method given decoded
    refine ⟨text, answered, ?_⟩
    rw [handle_of_version s version, Traced.value_map, answered]
    rfl

end Responses

/-- A client asks for a query to be run. -/
def queryJson (query : String) : Json := .object [
  ("jsonrpc", .string "2.0"), ("id", .integer 1), ("method", .string "tools/call"),
  ("params", .object [
    ("name", .string "evidence-query"), ("arguments", .object [("query", .string query)])])]

/-- The request in it. -/
def queryRequest (query : String) : Request := ⟨"2.0", some (.number 1), "tools/call",
  some (.object [
    ("name", .string "evidence-query"), ("arguments", .object [("query", .string query)])])⟩

theorem decoded_queryJson (query : String) :
    Request.decoder.ofJson (queryJson query) = .ok (queryRequest query) := rfl

theorem read_queryJson (query : String) :
    Json.read (Json.compact (queryJson query)) = .ok (queryJson query) := by
  apply Json.read_compact
  refine .object (by simp) ?_
  simp [Json.Fits]

/-- A query that is blank is refused and not sent, another is answered by a result, and so is reading
what is not there. -/
theorem blank_query_is_refused :
    (∃ e, bareServer.reply (Json.compact (queryJson " ")) =
      some (.failure (some (.number 1)) e)) ∧
    (respondTo bareServer false (Json.compact (queryJson " "))).calls = [] ∧
    (∃ text isError, (bareServer.handle (queryRequest "select 1")).value =
      some (.success (some (.number 1)) (ToolResult.toJson ⟨[⟨text⟩], isError⟩))) ∧
    ∃ text, (bareServer.handle ⟨"2.0", some (.number 2), "resources/read",
        some (ResourceRead.toJson ⟨"evidence://sales"⟩)⟩).value =
      some (.success (some (.number 2)) (ResourceReadResult.toJson
        ⟨[⟨"evidence://sales", "text/plain", text⟩]⟩)) := by
  obtain ⟨nothing, lines, calls, reads⟩ := errors_have_no_effect bareServer
  have blank : BadCall (queryRequest " ").params :=
    .refused rfl (show Tool.query.name = _ from rfl) (.blank rfl (by decide))
  have filled : ¬BadCall (queryRequest "select 1").params := by
    intro bad
    obtain ⟨e, failed⟩ := answer_of_badCall bareServer bad
    cases failed
  obtain ⟨refused, -⟩ := calls (queryRequest " ") (.number 1) rfl rfl rfl
  obtain ⟨e, failed⟩ := refused.2 blank
  obtain ⟨replied, -⟩ := lines _ _ _ (read_queryJson " ") (decoded_queryJson " ")
  obtain ⟨-, answered⟩ := calls (queryRequest "select 1") (.number 1) rfl rfl rfl
  obtain ⟨text, -, contents⟩ := reads ⟨"2.0", some (.number 2), "resources/read",
    some (ResourceRead.toJson ⟨"evidence://sales"⟩)⟩ _ ⟨"evidence://sales"⟩ rfl rfl rfl rfl
  have missing : isReadable bareServer.gateway bareServer.config.resultLimit "evidence://sales" =
    false := by decide
  have echoed := replied.trans failed
  refine ⟨⟨e, echoed⟩, nothing false _ _ echoed rfl, answered filled, text, ?_⟩
  rw [contents]
  simp [missing]

end DataShelf.Server
