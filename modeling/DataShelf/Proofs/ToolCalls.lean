import DataShelf.Proofs.SessionTrace
import DataShelf.Server.Loop

/-!
# Calls of tools

A tool is refused its arguments if one of them is missing or no text, or if its query is blank
(`Refuses`): then nothing is done, and that is the one error that is no answer of the tool
(`execute_of_refuses`, `execute_of_accepts`). So a request asks the engine for one query or for
nothing (`calls_handle_cases`), and for nothing where the response is an error
(`calls_handle_of_error`).
-/

namespace DataShelf.Server
set_option autoImplicit false

open Catalog (CatalogError)
open Query (Gateway QueryError)
open Rpc (ErrorObject Request RequestId Response)

/-! ### Arguments -/

section Arguments

variable (arguments : Json) (name : String)

/-- An argument is there as a text, or it is refused. -/
theorem argument_cases :
    (∃ text, arguments.field? name = some (.string text) ∧
      Tool.argument arguments name = .ok text) ∨
    (∀ text, arguments.field? name ≠ some (.string text)) ∧
      ∃ m, Tool.argument arguments name = .error (.invalidParams m) := by
  unfold Tool.argument
  cases arguments.field? name with
  | none => exact .inr ⟨nofun, _, rfl⟩
  | some j =>
    cases j with
    | string text => exact .inl ⟨text, rfl, rfl⟩
    | _ => exact .inr ⟨nofun, _, rfl⟩

variable {arguments name}

/-- A text that is given is the argument. -/
theorem argument_of_given {text : String} (given : arguments.field? name = some (.string text)) :
    Tool.argument arguments name = .ok text := by
  rcases argument_cases arguments name with ⟨text', same, read⟩ | ⟨missing, -⟩
  · obtain rfl : text = text' := by simpa [given] using same
    exact read
  · exact absurd given (missing text)

theorem argument_of_missing (missing : ∀ text, arguments.field? name ≠ some (.string text)) :
    ∃ m, Tool.argument arguments name = .error (.invalidParams m) := by
  rcases argument_cases arguments name with ⟨text, given, -⟩ | ⟨-, refused⟩
  · exact absurd given (missing text)
  · exact refused

end Arguments

/-! ### Tools -/

section Tools

variable {g : Gateway} {arguments : Json} {tool : Tool} {source table query : String}

/-- The tool that lists tables answers with their names, or that there is no such source. -/
theorem execute_listTables (given : arguments.field? "source" = some (.string source)) :
    Tool.listTables.execute g arguments =
      pure (((g.catalog.sourceTables source).mapError .ofCatalog).map Json.texts) := by
  simp only [Tool.execute, argument_of_given given]
  change pure ((g.catalog.sourceTables source).mapError ToolError.ofCatalog >>= fun names =>
    .ok (Json.texts names)) = _
  cases g.catalog.sourceTables source <;> rfl

/-- The tool that describes tables answers with their fields, or that there is no such table. -/
theorem execute_describeTable (outer : arguments.field? "source" = some (.string source))
    (inner : arguments.field? "table" = some (.string table)) :
    Tool.describeTable.execute g arguments =
      pure (((g.describeTable source table).mapError .ofQuery).map Catalog.schemaToJson) := by
  simp only [Tool.execute, argument_of_given outer, argument_of_given inner]
  change pure ((g.describeTable source table).mapError ToolError.ofQuery >>= fun fields =>
    .ok (Catalog.schemaToJson fields)) = _
  cases g.describeTable source table <;> rfl

/-- The tool that queries answers with the records, or with why there are none. -/
theorem execute_query (given : arguments.field? "query" = some (.string query))
    (filled : Text.isAllBlank query = false) :
    Tool.query.execute g arguments =
      (fun outcome => (outcome.mapError .ofQuery).map fun result => .array result.records) <$>
        g.runQuery query := by
  simp only [Tool.execute, argument_of_given given, Tool.runQuery, filled]
  refine bind_congr fun outcome => ?_
  cases outcome <;> rfl

/-- What keeps a tool from being run: an argument that is missing or no text, or a blank query. -/
inductive Refuses (arguments : Json) : Tool → Prop
  | argument {tool : Tool} {name what : String} (needed : (name, what) ∈ tool.parameters)
    (missing : ∀ text, arguments.field? name ≠ some (.string text)) : Refuses arguments tool
  | blank {query : String} (given : arguments.field? "query" = some (.string query))
    (blank : Text.isAllBlank query) : Refuses arguments .query

theorem given_of_accepts (accepts : ¬Refuses arguments tool) (name : String) {what : String}
    (needed : (name, what) ∈ tool.parameters) :
    ∃ text, arguments.field? name = some (.string text) := by
  by_contra missing
  exact accepts (.argument needed fun text given => missing ⟨text, given⟩)

/-- A query that is accepted is not blank. -/
theorem query_of_accepts (accepts : ¬Refuses arguments .query) :
    ∃ query, arguments.field? "query" = some (.string query) ∧ Text.isAllBlank query = false := by
  obtain ⟨query, given⟩ := given_of_accepts accepts "query" List.mem_cons_self
  refine ⟨query, given, ?_⟩
  rw [← Bool.not_eq_true]
  exact fun blank => accepts (.blank given blank)

/-- A tool that is refused its arguments does nothing. -/
theorem execute_of_refuses (refuses : Refuses arguments tool) :
    ∃ m, tool.execute g arguments = pure (.error (.invalidParams m)) := by
  cases refuses with
  | blank given blank =>
    refine ⟨"query must not be empty", ?_⟩
    simp only [Tool.execute, argument_of_given given, Tool.runQuery, blank]
    rfl
  | argument needed missing =>
    obtain ⟨m, refused⟩ := argument_of_missing missing
    cases tool with
    | listSources => cases needed
    | query =>
      obtain ⟨rfl, -⟩ := Prod.mk.inj (List.mem_singleton.1 needed)
      exact ⟨m, by simp only [Tool.execute, refused]⟩
    | listTables =>
      obtain ⟨rfl, -⟩ := Prod.mk.inj (List.mem_singleton.1 needed)
      exact ⟨m, by simp only [Tool.execute, refused]; rfl⟩
    | describeTable =>
      rcases argument_cases arguments "source" with ⟨source, given, read⟩ | ⟨-, m', refused'⟩
      · rcases List.mem_cons.1 needed with first | second
        · obtain ⟨rfl, -⟩ := Prod.mk.inj first
          exact absurd given (missing source)
        · obtain ⟨rfl, -⟩ := Prod.mk.inj (List.mem_singleton.1 second)
          exact ⟨m, by simp only [Tool.execute, read, refused]; rfl⟩
      · exact ⟨m', by simp only [Tool.execute, refused']; rfl⟩

theorem isInvalidParams_ofCatalog (e : CatalogError) :
    (ToolError.ofCatalog e).isInvalidParams = false := by
  cases e <;> rfl

theorem isInvalidParams_ofQuery (e : QueryError) :
    (ToolError.ofQuery e).isInvalidParams = false := by
  cases e with
  | catalog e => exact isInvalidParams_ofCatalog e
  | _ => rfl

/-- A failure that does not come from arguments is none of them in other words. -/
theorem isInvalidParams_of_mapError {ε α : Type} {into : ε → ToolError} {f : α → Json}
    (plain : ∀ err, (into err).isInvalidParams = false) {outcome : Except ε α} {e : ToolError}
    (failed : (outcome.mapError into).map f = .error e) : e.isInvalidParams = false := by
  cases outcome with
  | ok a => cases failed
  | error err => exact Except.error.inj failed ▸ plain err

/-- A tool that takes its arguments has a result or fails at something else. -/
theorem execute_of_accepts (accepts : ¬Refuses arguments tool) {e : ToolError}
    (failed : (tool.execute g arguments).value = .error e) : e.isInvalidParams = false := by
  cases tool with
  | listSources => cases failed
  | listTables =>
    obtain ⟨source, given⟩ := given_of_accepts accepts "source" List.mem_cons_self
    rw [execute_listTables given] at failed
    exact isInvalidParams_of_mapError isInvalidParams_ofCatalog failed
  | describeTable =>
    obtain ⟨source, outer⟩ := given_of_accepts accepts "source" List.mem_cons_self
    obtain ⟨table, inner⟩ := given_of_accepts accepts "table"
      (List.mem_cons_of_mem _ List.mem_cons_self)
    rw [execute_describeTable outer inner] at failed
    exact isInvalidParams_of_mapError isInvalidParams_ofQuery failed
  | query =>
    obtain ⟨query, given, filled⟩ := query_of_accepts accepts
    rw [execute_query given filled] at failed
    exact isInvalidParams_of_mapError isInvalidParams_ofQuery failed

/-- A tool asks the engine for one query or for nothing. -/
theorem calls_execute_cases (g : Gateway) (arguments : Json) (tool : Tool) :
    (tool.execute g arguments).calls = [] ∨
      ∃ query, (tool.execute g arguments).calls = (g.runQuery query).calls := by
  cases tool with
  | query =>
    by_cases refuses : Refuses arguments .query
    · obtain ⟨m, same⟩ := execute_of_refuses (g := g) refuses
      exact .inl (by rw [same, Traced.calls_pure])
    · obtain ⟨query, given, filled⟩ := query_of_accepts refuses
      exact .inr ⟨query, by rw [execute_query given filled, Traced.calls_map]⟩
  | _ => exact .inl rfl

end Tools

/-! ### Calls -/

section Calls

variable (s : Server) {call : Wire.ToolCall} {tool : Tool}

@[simp] theorem calls_enforce (b : Budget) (content : String) : (b.enforce content).calls = [] := by
  unfold Budget.enforce
  split <;> simp

theorem callTool_of_unknown (unknown : Tool.ofName? call.name = none) :
    s.callTool call = pure (.error (.of .invalidParams ("Unknown tool: " ++ call.name))) := by
  rw [callTool, unknown]

/-- A call that the tool refuses is refused. -/
theorem callTool_of_refuses (named : Tool.ofName? call.name = some tool)
    (refuses : Refuses call.arguments tool) :
    ∃ m, s.callTool call = pure (.error (ToolError.toErrorObject (.invalidParams m))) := by
  obtain ⟨m, same⟩ := execute_of_refuses (g := s.gateway) refuses
  refine ⟨m, ?_⟩
  rw [callTool, named]
  dsimp only
  rw [same, pure_bind]
  rfl

/-- The answer with a text, or with the notice that it is too long. -/
def fitted (limit : Nat) (content : String) : Wire.ToolResult :=
  if content.utf8ByteSize ≤ limit then ⟨[⟨content⟩], false⟩
  else ⟨[⟨(Budget.mk limit).notice content.utf8ByteSize⟩], true⟩

/-- A text within the budget stays, and the notice takes the place of any other. -/
theorem value_enforce (limit : Nat) (content : String) :
    ((Budget.mk limit).enforce content).value =
      if content.utf8ByteSize ≤ limit then (content, false)
      else ((Budget.mk limit).notice content.utf8ByteSize, true) := by
  unfold Budget.enforce Budget.refusal?
  by_cases fits : content.utf8ByteSize ≤ limit
  · rw [if_pos fits, if_neg (Nat.not_lt.2 fits)]
    rfl
  · rw [if_neg fits, if_pos (Nat.not_le.1 fits)]
    rfl

/-- A call whose tool succeeds is answered with its text, within the budget. -/
theorem callTool_of_ok (named : Tool.ofName? call.name = some tool) {j : Json}
    (executed : (tool.execute s.gateway call.arguments).value = .ok j) :
    (s.callTool call).value = .ok (fitted s.config.maxResponseBytes (Json.pretty j)) := by
  rw [callTool, named]
  dsimp only
  rw [Traced.value_bind, executed]
  dsimp only
  rw [Traced.value_bind, value_enforce, fitted]
  by_cases fits : (Json.pretty j).utf8ByteSize ≤ s.config.maxResponseBytes
  · rw [if_pos fits, if_pos fits]
    rfl
  · rw [if_neg fits, if_neg fits]
    rfl

/-- A call whose tool fails is answered with the words for the failure. -/
theorem callTool_of_error (named : Tool.ofName? call.name = some tool) {e : ToolError}
    (executed : (tool.execute s.gateway call.arguments).value = .error e)
    (other : e.isInvalidParams = false) :
    (s.callTool call).value = .ok (toolFailure ("Error: " ++ e.message)) := by
  rw [callTool, named]
  dsimp only
  rw [Traced.value_bind, executed]
  simp [other]

/-- A tool that takes its arguments answers by one piece of text. -/
theorem callTool_of_accepts (named : Tool.ofName? call.name = some tool)
    (accepts : ¬Refuses call.arguments tool) :
    ∃ text isError, (s.callTool call).value = .ok ⟨[⟨text⟩], isError⟩ := by
  cases executed : (tool.execute s.gateway call.arguments).value with
  | ok j =>
    rw [callTool_of_ok s named executed, fitted]
    split
    · exact ⟨_, _, rfl⟩
    · exact ⟨_, _, rfl⟩
  | error e =>
    exact ⟨_, _, callTool_of_error s named executed (execute_of_accepts accepts executed)⟩

/-- Calling a tool asks the engine for what running the tool does. -/
theorem calls_callTool (named : Tool.ofName? call.name = some tool) :
    (s.callTool call).calls = (tool.execute s.gateway call.arguments).calls := by
  rw [callTool, named]
  dsimp only
  rw [Traced.calls_bind]
  cases (tool.execute s.gateway call.arguments).value with
  | ok j => simp
  | error e =>
    dsimp only
    split <;> simp

end Calls

/-! ### Requests -/

section Requests

variable (s : Server) {request : Request}

/-- A call asks for nothing, or for one query. -/
theorem calls_callTool_cases (call : Wire.ToolCall) :
    (s.callTool call).calls = [] ∨
      ∃ query, (s.callTool call).calls = (s.gateway.runQuery query).calls := by
  cases named : Tool.ofName? call.name with
  | none => exact .inl (by rw [callTool_of_unknown s named, Traced.calls_pure])
  | some tool =>
    rw [calls_callTool s named]
    exact calls_execute_cases s.gateway call.arguments tool

/-- A preview asks for nothing, or for one query. -/
theorem calls_previewTable_cases (g : Gateway) (source table : String) (limit : Nat) :
    (g.previewTable source table limit).calls = [] ∨
      ∃ query, (g.previewTable source table limit).calls = (g.runQuery query).calls := by
  unfold Gateway.previewTable
  dsimp only
  repeat' split
  · exact .inl rfl
  · exact .inr ⟨_, rfl⟩
  · exact .inl rfl
  · exact .inr ⟨_, rfl⟩

/-- Reading an address asks for nothing, or for one query. -/
theorem calls_read_cases (g : Gateway) (limit : Nat) (uri : String) :
    (Resources.read g limit uri).calls = [] ∨
      ∃ query, (Resources.read g limit uri).calls = (g.runQuery query).calls := by
  unfold Resources.read
  cases ResourceUri.parse? uri with
  | none => exact .inl (by simp)
  | some r =>
    cases r with
    | source name => exact .inl rfl
    | table source table => simpa using calls_previewTable_cases g source table limit
    | sql query => exact .inr ⟨query, by simp⟩

section Decoding

variable {α : Type} {d : Json.Decoder α} {j : Json} (what : String)

theorem decodeParams_of_ok {a : α} (decoded : d.ofJson j = .ok a) :
    decodeParams d what (some j) = .ok a := by
  rw [decodeParams, decoded]

theorem decodeParams_of_error {m : Json.Mismatch} (refused : d.ofJson j = .error m) :
    decodeParams d what (some j) =
      .error (.of .invalidParams ("Invalid " ++ what ++ " params: " ++ m.message)) := by
  rw [decodeParams, refused]

end Decoding

section Answers

variable {params : Option Json} {e : ErrorObject}

theorem answer_of_undecoded_call
    (refused : decodeParams Wire.ToolCall.decoder "tool call" params = .error e) :
    s.answer .toolsCall params = pure (.error e) := by
  rw [answer, refused]

/-- A call that is decoded is made. -/
theorem answer_of_call {call : Wire.ToolCall}
    (decoded : decodeParams Wire.ToolCall.decoder "tool call" params = .ok call) :
    s.answer .toolsCall params =
      (fun outcome => outcome.map Wire.ToolResult.toJson) <$> s.callTool call := by
  rw [answer, decoded]
  rfl

theorem answer_of_undecoded_read
    (refused : decodeParams Wire.ResourceRead.decoder "resource read" params = .error e) :
    s.answer .resourcesRead params = pure (.error e) := by
  rw [answer, refused]

/-- A read that is decoded is answered with its contents. -/
theorem answer_of_read {read : Wire.ResourceRead}
    (decoded : decodeParams Wire.ResourceRead.decoder "resource read" params = .ok read) :
    s.answer .resourcesRead params =
      (fun contents => .ok (Wire.ResourceReadResult.toJson ⟨[contents]⟩)) <$>
        Resources.read s.gateway s.config.resultLimit read.uri := by
  rw [answer, decoded]
  rfl

/-- A method asks for nothing, or for one query. -/
theorem calls_answer_cases (m : Method) (params : Option Json) :
    (s.answer m params).calls = [] ∨
      ∃ query, (s.answer m params).calls = (s.gateway.runQuery query).calls := by
  cases m with
  | toolsCall =>
    cases decoded : decodeParams Wire.ToolCall.decoder "tool call" params with
    | error e => exact .inl (by rw [answer_of_undecoded_call s decoded, Traced.calls_pure])
    | ok call =>
      rw [answer_of_call s decoded, Traced.calls_map]
      exact calls_callTool_cases s call
  | resourcesRead =>
    cases decoded : decodeParams Wire.ResourceRead.decoder "resource read" params with
    | error e => exact .inl (by rw [answer_of_undecoded_read s decoded, Traced.calls_pure])
    | ok read =>
      rw [answer_of_read s decoded, Traced.calls_map]
      exact calls_read_cases s.gateway s.config.resultLimit read.uri
  | _ => exact .inl rfl

/-- A tool that fails at its arguments has asked the engine for nothing. -/
theorem calls_callTool_of_error {call : Wire.ToolCall}
    (failed : (s.callTool call).value = .error e) : (s.callTool call).calls = [] := by
  cases named : Tool.ofName? call.name with
  | none => rw [callTool_of_unknown s named, Traced.calls_pure]
  | some tool =>
    by_cases refuses : Refuses call.arguments tool
    · obtain ⟨m, same⟩ := callTool_of_refuses s named refuses
      rw [same, Traced.calls_pure]
    · obtain ⟨text, isError, answered⟩ := callTool_of_accepts s named refuses
      rw [answered] at failed
      cases failed

/-- Where a method answers an error, the engine was asked for nothing. -/
theorem calls_answer_of_error {m : Method} (failed : (s.answer m params).value = .error e) :
    (s.answer m params).calls = [] := by
  cases m with
  | toolsCall =>
    cases decoded : decodeParams Wire.ToolCall.decoder "tool call" params with
    | error e => rw [answer_of_undecoded_call s decoded, Traced.calls_pure]
    | ok call =>
      rw [answer_of_call s decoded] at failed ⊢
      rw [Traced.calls_map]
      cases answered : (s.callTool call).value with
      | ok result => simp [answered, Except.map] at failed
      | error e => exact calls_callTool_of_error s answered
  | resourcesRead =>
    cases decoded : decodeParams Wire.ResourceRead.decoder "resource read" params with
    | error e => rw [answer_of_undecoded_read s decoded, Traced.calls_pure]
    | ok read =>
      rw [answer_of_read s decoded] at failed
      cases failed
  | _ => rfl

end Answers

/-- A request of the version of the protocol is answered what its method answers, if it has an id. -/
theorem handle_of_version (version : request.version = "2.0") :
    s.handle request =
      (fun outcome => request.id.map fun id => respond (some id) outcome) <$> s.outcome request := by
  rw [handle, if_pos (show request.version = Rpc.version from version)]
  refine bind_congr fun outcome => ?_
  cases id : request.id <;> simp only [Request.isNotification, id] <;> rfl

theorem handle_of_other (other : request.version ≠ "2.0") :
    s.handle request = pure (some (.failure request.id
      (.of .invalidRequest ("Invalid JSON-RPC version: " ++ request.version)))) :=
  if_neg other

/-- A request asks the engine for one query or for nothing. -/
theorem calls_handle_cases (request : Request) :
    (s.handle request).calls = [] ∨
      ∃ query, (s.handle request).calls = (s.gateway.runQuery query).calls := by
  by_cases version : request.version = "2.0"
  · rw [handle_of_version s version, Traced.calls_map, outcome]
    split
    · exact calls_answer_cases s _ _
    · exact .inl rfl
  · exact .inl (by rw [handle_of_other s version, Traced.calls_pure])

/-- Where the response to a request is an error, the engine was asked for nothing. -/
theorem calls_handle_of_error {response : Response} (answered : (s.handle request).value = some response)
    (failed : response.error.isSome) : (s.handle request).calls = [] := by
  by_cases version : request.version = "2.0"
  · rw [handle_of_version s version] at answered ⊢
    obtain ⟨id, -, rfl⟩ := Option.map_eq_some_iff.1 answered
    rw [Traced.calls_map]
    cases result : (s.outcome request).value with
    | ok j =>
      rw [result] at failed
      cases failed
    | error e =>
      unfold outcome at result ⊢
      split at result
      · exact calls_answer_of_error s result
      · rfl
  · rw [handle_of_other s version, Traced.calls_pure]

@[simp] theorem calls_requestOf (j : Json) : (requestOf j).calls = [] := by
  unfold requestOf
  split <;> simp

@[simp] theorem calls_parseLine (line : String) : (parseLine line).calls = [] := by
  unfold parseLine
  split <;> simp

/-- Answering a line asks the engine for what the request in the line asks for. -/
theorem calls_respondTo (initialized : Bool) (line : String) :
    (respondTo s initialized line).calls =
      match (parseLine line).value with
      | .error _ => []
      | .ok request => (s.handle request).calls := by
  rw [respondTo, Traced.calls_bind, calls_parseLine, List.nil_append]
  cases (parseLine line).value <;> simp

end Requests
end DataShelf.Server
