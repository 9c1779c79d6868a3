import DataShelf.Proofs.ListedResources
import DataShelf.Proofs.QuietDiscovery
import DataShelf.Proofs.Refusals

/-!
# Three ways to a query

A query is run by calling a tool, by reading the address that it makes, or from the command line. Each
way is the query on the gateway with its outcome told in another form (`handle_queryCall`,
`handle_queryRead`, `perform_query`), so they ask the engine for the same and tell of the same rows or
of the same failure (`query_ways_agree`).
-/

namespace DataShelf.Server
set_option autoImplicit false

open CommandLine (Invocation Surroundings perform)
open Query (Gateway QueryError)
open ResourceUri (parse?)
open Rpc (Request RequestId Response)
open Wire (ResourceContents ResourceRead ResourceReadResult ToolCall ToolResult)

/-! ### Forms of an outcome -/

/-- The rows of a result as text. -/
def rowsText (result : Query.Result) : String := Json.pretty (.array result.records)

/-- The answer of the tool. -/
def toolAnswer (limit : Nat) : Except QueryError Query.Result → ToolResult
  | .ok result => fitted limit (rowsText result)
  | .error e => toolFailure ("Error: " ++ (ToolError.ofQuery e).message)

/-- The contents of the address. -/
def addressContents (uri : String) : Except QueryError Query.Result → ResourceContents :=
  Resources.ofOutcome uri "Error executing SQL query: "

/-- What the command leaves behind. -/
def commandOutcome : Except QueryError Query.Result → CommandLine.Outcome
  | .ok result => .done (rowsText result ++ "\n")
  | .error e => .failed "" (.ofQuery e)

/-- What is said before a message may be said in one piece. -/
theorem append_said {a b whole : String} (m : String) (said : a ++ b = whole) :
    a ++ (b ++ m) = whole ++ m := by
  rw [← String.append_assoc, said]

theorem toolAnswer_session (limit : Nat) (m : String) :
    toolAnswer limit (.error (.session m)) =
      ⟨[⟨"Error: Internal error: Query session error: " ++ m⟩], true⟩ := by
  have inner : "Internal error: " ++ ("Query session error: " ++ m) =
      "Internal error: Query session error: " ++ m := append_said m rfl
  have text : "Error: " ++ ("Internal error: Query session error: " ++ m) =
      "Error: Internal error: Query session error: " ++ m := append_said m rfl
  show toolFailure ("Error: " ++ ("Internal error: " ++ ("Query session error: " ++ m))) = _
  rw [inner, text]
  rfl

theorem addressContents_session (uri m : String) :
    addressContents uri (.error (.session m)) =
      ⟨uri, "text/plain", "Error executing SQL query: Query session error: " ++ m⟩ := by
  have text : "Error executing SQL query: " ++ ("Query session error: " ++ m) =
      "Error executing SQL query: Query session error: " ++ m := append_said m rfl
  show Resources.text uri ("Error executing SQL query: " ++ ("Query session error: " ++ m)) = _
  rw [text]
  rfl

theorem commandOutcome_session (m : String) :
    commandOutcome (.error (.session m)) =
      ⟨1, "", "ERROR: Query session error: " ++ m ++ "\n"⟩ := by
  have text : "ERROR: " ++ ("Query session error: " ++ m) = "ERROR: Query session error: " ++ m :=
    append_said m rfl
  show CommandLine.Outcome.mk 1 "" ("ERROR: " ++ ("Query session error: " ++ m) ++ "\n") = _
  rw [text]

theorem commandOutcome_execution (m : String) :
    ∃ rest, commandOutcome (.error (.execution m)) =
      ⟨1, "", "ERROR: Query failed: " ++ m ++ rest⟩ := by
  have text : "ERROR: " ++ ("Query failed: " ++ m) = "ERROR: Query failed: " ++ m :=
    append_said m rfl
  simp only [commandOutcome, CommandLine.Outcome.failed, CommandLine.Failure.ofQuery,
    CommandLine.Failure.render, CommandLine.Advice.render, CommandLine.Advice.queryFailed, text]
  simp only [String.append_assoc]
  exact ⟨_, rfl⟩

/-! ### The three ways -/

section Ways

variable (s : Server) {query uri : String}

/-- Calling the tool runs the query and tells its outcome. -/
theorem callTool_query {call : ToolCall} (named : call.name = "evidence-query")
    (given : call.arguments.field? "query" = some (.string query))
    (filled : Text.isAllBlank query = false) :
    (s.callTool call).calls = (s.gateway.runQuery query).calls ∧
    (s.callTool call).value =
      .ok (toolAnswer s.config.maxResponseBytes (s.gateway.runQuery query).value) := by
  have tool : Tool.ofName? call.name = some .query := ofName?_eq_some_iff.2 named.symm
  have executed := execute_query (g := s.gateway) given filled
  constructor
  · rw [calls_callTool s tool, executed, Traced.calls_map]
  · cases outcome : (s.gateway.runQuery query).value with
    | ok result =>
      apply callTool_of_ok s tool
      rw [executed, Traced.value_map, outcome]
      rfl
    | error e =>
      refine callTool_of_error s tool ?_ (isInvalidParams_ofQuery e)
      rw [executed, Traced.value_map, outcome]
      rfl

/-- Reading the address runs the query and tells its outcome. -/
theorem read_query (limit : Nat) (leads : parse? uri = some (.sql query)) :
    (Resources.read s.gateway limit uri).calls = (s.gateway.runQuery query).calls ∧
    (Resources.read s.gateway limit uri).value =
      addressContents uri (s.gateway.runQuery query).value := by
  simp [Resources.read, leads, addressContents]

/-- The command runs the query and tells its outcome. -/
theorem perform_query {i : Invocation} (asks : i.task = .query query true) (input : List UInt8) :
    (perform i input s.gateway).calls = (s.gateway.runQuery query).calls ∧
    (perform i input s.gateway).value = commandOutcome (s.gateway.runQuery query).value := by
  unfold perform
  rw [asks]
  dsimp only
  rw [Traced.calls_bind, Traced.value_bind]
  cases (s.gateway.runQuery query).value with
  | ok result => exact ⟨List.append_nil _, rfl⟩
  | error e => exact ⟨List.append_nil _, rfl⟩

end Ways

/-! ### Lines and command lines -/

/-- A line that asks the tool to run a query. -/
def CallsQuery (line : String) (id : Option RequestId) (query : String) : Prop :=
  ∃ j params call, Json.read line = .ok j ∧
    Request.decoder.ofJson j = .ok ⟨"2.0", id, "tools/call", some params⟩ ∧
    ToolCall.decoder.ofJson params = .ok call ∧ call.name = "evidence-query" ∧
    call.arguments.field? "query" = some (.string query)

/-- A line that asks for what stands at an address. -/
def ReadsAddress (line : String) (id : Option RequestId) (uri : String) : Prop :=
  ∃ j params, Json.read line = .ok j ∧
    Request.decoder.ofJson j = .ok ⟨"2.0", id, "resources/read", some params⟩ ∧
    ResourceRead.decoder.ofJson params = .ok ⟨uri⟩

/-- Every query can be asked for. -/
theorem callsQuery_queryJson (query : String) :
    CallsQuery (Json.compact (queryJson query)) (some (.number 1)) query :=
  ⟨_, _, _, read_queryJson query, decoded_queryJson query, rfl, rfl, rfl⟩

/-- A client asks for what stands at an address. -/
def readJson (uri : String) : Json := .object [
  ("jsonrpc", .string "2.0"), ("id", .integer 2), ("method", .string "resources/read"),
  ("params", ResourceRead.toJson ⟨uri⟩)]

/-- Every address can be asked for. -/
theorem readsAddress_readJson (uri : String) :
    ReadsAddress (Json.compact (readJson uri)) (some (.number 2)) uri := by
  refine ⟨_, _, Json.read_compact (.object ?_ ?_), rfl, rfl⟩
  · simp
  · simp [Json.Fits, ResourceRead.toJson]

section Lines

variable (s : Server) {line query uri : String} {id : Option RequestId}

/-- What a line with a request does is what the request does. -/
theorem respondTo_of_line {j : Json} {request : Request} (read : Json.read line = .ok j)
    (decoded : Request.decoder.ofJson j = .ok request) (version : request.version = "2.0")
    (initialized : Bool) :
    (respondTo s initialized line).calls = (s.outcome request).calls ∧
    (respondTo s initialized line).value.1 =
      request.id.map fun id => respond (some id) (s.outcome request).value := by
  have handled := handle_of_version s version
  constructor
  · rw [calls_respondTo, parseLine, read]
    dsimp only
    rw [requestOf, decoded]
    exact (congrArg Traced.calls handled).trans (Traced.calls_map _ _)
  · rw [respondTo_of_request s read decoded, handled, Traced.value_map]

theorem respondTo_callsQuery (asked : CallsQuery line id query)
    (filled : Text.isAllBlank query = false) (initialized : Bool) :
    (respondTo s initialized line).calls = (s.gateway.runQuery query).calls ∧
    (respondTo s initialized line).value.1 = id.map fun id => .success (some id)
      (toolAnswer s.config.maxResponseBytes (s.gateway.runQuery query).value).toJson := by
  obtain ⟨j, params, call, read, decoded, called, named, given⟩ := asked
  obtain ⟨calls, value⟩ := respondTo_of_line s read decoded rfl initialized
  obtain ⟨calls', value'⟩ := callTool_query s named given filled
  have outcome : s.outcome ⟨"2.0", id, "tools/call", some params⟩ =
      (fun outcome => outcome.map ToolResult.toJson) <$> s.callTool call :=
    answer_of_call s (decodeParams_of_ok "tool call" called)
  rw [outcome, Traced.calls_map] at calls
  rw [outcome, Traced.value_map, value'] at value
  exact ⟨calls.trans calls', value⟩

/-- A line that reads the address asks for the query and is answered with what came of it. -/
theorem respondTo_readsAddress (asked : ReadsAddress line id uri)
    (leads : parse? uri = some (.sql query)) (initialized : Bool) :
    (respondTo s initialized line).calls = (s.gateway.runQuery query).calls ∧
    (respondTo s initialized line).value.1 = id.map fun id => .success (some id)
      (ResourceReadResult.toJson ⟨[addressContents uri (s.gateway.runQuery query).value]⟩) := by
  obtain ⟨j, params, read, decoded, address⟩ := asked
  obtain ⟨calls, value⟩ := respondTo_of_line s read decoded rfl initialized
  obtain ⟨calls', value'⟩ := read_query s s.config.resultLimit leads
  have outcome : s.outcome ⟨"2.0", id, "resources/read", some params⟩ =
      (fun contents => .ok (ResourceReadResult.toJson ⟨[contents]⟩)) <$>
        Resources.read s.gateway s.config.resultLimit uri :=
    answer_of_read s (decodeParams_of_ok "resource read" address)
  rw [outcome, Traced.calls_map] at calls
  rw [outcome, Traced.value_map, value'] at value
  exact ⟨calls.trans calls', value⟩

/-- A command line that comes to its command does what the command does. -/
theorem run_of_opened {u : Surroundings} {words : List String} {i : Invocation} {g : Gateway}
    (read : Invocation.read u.environment words = .ok i)
    (opened : (CommandLine.openGateway (CommandLine.filesWithLogs u) u.engine i.projectPath
      i.dataPath).value = .ok g) :
    (CommandLine.run u words).calls = (perform i u.input g).calls ∧
    (CommandLine.run u words).value = (perform i u.input g).value := by
  unfold CommandLine.run
  rw [read]
  dsimp only
  rw [Traced.calls_bind, Traced.value_bind, CommandLine.calls_openGateway, opened]
  exact ⟨rfl, rfl⟩

end Lines

/-- **Three ways to a query.** A line that calls the tool, a line that reads the address of a query,
and a command ask the engine for the same, namely for what the query asks on the gateway. Where the
query has rows, the text of the tool, if it is not too long, that of the address and the output of
the command but for the end of its line are the same. Where it fails each way tells of the failure in
its own words and with the same message. -/
theorem query_ways_agree (s : Server) (initialized : Bool) (input : List UInt8)
    {query uri callLine readLine : String} {callId readId : Option RequestId} {i : Invocation}
    (filled : Text.isAllBlank query = false) (called : CallsQuery callLine callId query)
    (reads : ReadsAddress readLine readId uri) (leads : parse? uri = some (.sql query))
    (asks : i.task = .query query true) :
    let asked := s.gateway.runQuery query
    let tool := respondTo s initialized callLine
    let resource := respondTo s initialized readLine
    let command := perform i input s.gateway
    parse? ("evidence://sql/" ++ Text.percentEncode query) = some (.sql query) ∧
    (tool.calls = asked.calls ∧ resource.calls = asked.calls ∧ command.calls = asked.calls) ∧
    (∀ u words, Invocation.read u.environment words = .ok i →
      (CommandLine.openGateway (CommandLine.filesWithLogs u) u.engine i.projectPath
        i.dataPath).value = .ok s.gateway →
      (CommandLine.run u words).calls = asked.calls ∧
      (CommandLine.run u words).value = command.value) ∧
    match asked.value with
    | .ok result =>
      let text := Json.pretty (.array result.records)
      (text.utf8ByteSize ≤ s.config.maxResponseBytes →
        tool.value.1 = callId.map fun id =>
          .success (some id) (ToolResult.toJson ⟨[⟨text⟩], false⟩)) ∧
      (resource.value.1 = readId.map fun id =>
        .success (some id) (ResourceReadResult.toJson ⟨[⟨uri, "application/json", text⟩]⟩)) ∧
      command.value = ⟨0, text ++ "\n", ""⟩
    | .error (.execution m) =>
      (tool.value.1 = callId.map fun id =>
        .success (some id) (ToolResult.toJson ⟨[⟨"Error: " ++ m⟩], true⟩)) ∧
      (resource.value.1 = readId.map fun id => .success (some id) (ResourceReadResult.toJson
        ⟨[⟨uri, "text/plain", "Error executing SQL query: " ++ m⟩]⟩)) ∧
      ∃ rest, command.value = ⟨1, "", "ERROR: Query failed: " ++ m ++ rest⟩
    | .error (.session m) =>
      (tool.value.1 = callId.map fun id => .success (some id) (ToolResult.toJson
        ⟨[⟨"Error: Internal error: Query session error: " ++ m⟩], true⟩)) ∧
      (resource.value.1 = readId.map fun id => .success (some id) (ResourceReadResult.toJson
        ⟨[⟨uri, "text/plain", "Error executing SQL query: Query session error: " ++ m⟩]⟩)) ∧
      command.value = ⟨1, "", "ERROR: Query session error: " ++ m ++ "\n"⟩
    | .error _ => False := by
  intro asked tool resource command
  obtain ⟨toolCalls, toolValue⟩ := respondTo_callsQuery s called filled initialized
  obtain ⟨resourceCalls, resourceValue⟩ := respondTo_readsAddress s reads leads initialized
  obtain ⟨commandCalls, commandValue⟩ := perform_query s asks input
  have address : parse? ("evidence://sql/" ++ Text.percentEncode query) = some (.sql query) := by
    have named : query ≠ "" := by
      rintro rfl
      cases filled
    exact (ResourceUri.parse?_ofSql query).trans (if_neg named)
  refine ⟨address, ⟨toolCalls, resourceCalls, commandCalls⟩, ?_, ?_⟩
  · intro u words read opened
    obtain ⟨calls, value⟩ := run_of_opened read opened
    obtain ⟨calls', value'⟩ := perform_query s asks u.input
    exact ⟨calls.trans calls', value.trans (value'.trans commandValue.symm)⟩
  · change tool.value.1 = callId.map _ at toolValue
    change resource.value.1 = readId.map _ at resourceValue
    change command.value = _ at commandValue
    rw [toolValue, resourceValue, commandValue]
    cases outcome : (s.gateway.runQuery query).value with
    | ok result =>
      refine ⟨?_, rfl, rfl⟩
      intro fits
      rw [toolAnswer, fitted, rowsText, if_pos fits]
    | error e =>
      obtain ⟨m, rfl | rfl⟩ := Query.runQuery_error_cases s.gateway query outcome
      · dsimp only
        rw [toolAnswer_session, addressContents_session, commandOutcome_session]
        exact ⟨rfl, rfl, rfl⟩
      · exact ⟨rfl, rfl, commandOutcome_execution m⟩

/-- A command line that asks for a query to be run on the data in the working directory. -/
def queryWords (query : String) : List String :=
  ["--project-path", ".", "--data-path", ".", "query", "--json", query]

/-- All that the command line depends on, where the data is one script. -/
def oneScriptSurroundings : Surroundings := ⟨Catalog.oneScript, Query.accepting, [], []⟩

/-- The tree with one script opens as the catalog of sales. -/
theorem openGateway_oneScript :
    (CommandLine.openGateway Catalog.oneScript Query.accepting (some Catalog.here)
      (some Catalog.here)).value = .ok salesServer.gateway := by
  have there : Catalog.oneScript.exists Catalog.here := by
    rw [Files.FileTree.exists, Catalog.oneScript_node]
  have filled : Catalog.salesCatalog.isEmpty = false := by decide
  have project : Catalog.Project.open? Catalog.oneScript Catalog.here (some Catalog.here) =
      .ok ⟨Catalog.here, some Catalog.here⟩ := if_pos there
  have root : (Catalog.Project.mk Catalog.here (some Catalog.here)).dataRoot Catalog.oneScript =
      .ok Catalog.here := if_pos there
  rw [CommandLine.openGateway, project]
  dsimp only
  rw [Traced.value_bind, Catalog.Project.catalog, root]
  dsimp only
  rw [Catalog.oneScript_build]
  dsimp only
  rw [filled]
  rfl

/-- A query over one script gives no rows, whichever way it is asked for. -/
theorem select_one_three_ways :
    let tool := respondTo salesServer false (Json.compact (queryJson "select 1"))
    let resource := respondTo salesServer false
      (Json.compact (readJson (ResourceUri.ofSql "select 1")))
    let command := CommandLine.run oneScriptSurroundings (queryWords "select 1")
    tool.calls = command.calls ∧ resource.calls = command.calls ∧
    tool.value.1 = some (.success (some (.number 1)) (ToolResult.toJson ⟨[⟨"[]"⟩], false⟩)) ∧
    resource.value.1 = some (.success (some (.number 2)) (ResourceReadResult.toJson
      ⟨[⟨ResourceUri.ofSql "select 1", "application/json", "[]"⟩]⟩)) ∧
    command.value = ⟨0, "[]\n", ""⟩ := by
  intro tool resource command
  obtain ⟨i, read, asks, project, data⟩ :
      ∃ i, Invocation.read [] (queryWords "select 1") = .ok i ∧ i.task = .query "select 1" true ∧
        i.projectPath = some Catalog.here ∧ i.dataPath = some Catalog.here :=
    ⟨_, rfl, by decide, by decide, by decide⟩
  have leads : parse? (ResourceUri.ofSql "select 1") = some (.sql "select 1") :=
    (ResourceUri.parse?_ofSql _).trans (if_neg (by decide))
  obtain ⟨-, ⟨toolCalls, resourceCalls, -⟩, opened, forms⟩ :=
    query_ways_agree salesServer false [] (by decide) (callsQuery_queryJson "select 1")
      (readsAddress_readJson (ResourceUri.ofSql "select 1")) leads asks
  obtain ⟨commandCalls, commandValue⟩ := opened oneScriptSurroundings _ read (by
    rw [project, data]
    exact openGateway_oneScript)
  have rows : (salesServer.gateway.runQuery "select 1").value = .ok ⟨[], []⟩ :=
    (Query.runQuery_of_success _ _ rfl).2
  rw [rows] at forms
  obtain ⟨toolValue, resourceValue, value⟩ := forms
  refine ⟨toolCalls.trans commandCalls.symm, resourceCalls.trans commandCalls.symm, ?_, ?_, ?_⟩
  · exact toolValue (by decide)
  · exact resourceValue
  · exact commandValue.trans value

end DataShelf.Server
