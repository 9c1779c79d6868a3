import DataShelf.Proofs.Refusals

/-!
# The budget of results

A result of a tool keeps the budget if its text is no longer than the limit, or is the notice for a
text that was and the result is marked as an error (`KeepsBudget`). What a tool returns is brought
within the budget (`keepsBudget_fitted`), but the words for a failure are not looked at: a call that
fails keeps the budget only if they happen to fit (`result_keeps_budget_iff`).
-/

namespace DataShelf.Server
set_option autoImplicit false

open Rpc (Request RequestId Response)
open Wire (ToolCall ToolResult)

/-- A result keeps the budget: its text is no longer than the limit, or it is the notice for a text
that was, which states the limit and the size of that text, and marked as an error. -/
def KeepsBudget (limit : Nat) (result : ToolResult) : Prop :=
  ∃ text isError, result = ⟨[⟨text⟩], isError⟩ ∧
    (text.utf8ByteSize ≤ limit ∨
      ∃ size, limit < size ∧ isError = true ∧ text = Json.compact (.object [
        ("truncated", .bool true), ("max_bytes", .nat limit), ("original_bytes", .nat size),
        ("message", .string "Response exceeded size limit. Add a LIMIT or filters.")]))

section Budgets

variable {limit : Nat}

/-- What fits stays, and the notice is in the place of what does not. -/
theorem keepsBudget_fitted (limit : Nat) (content : String) :
    KeepsBudget limit (fitted limit content) := by
  unfold fitted
  by_cases fits : content.utf8ByteSize ≤ limit
  · rw [if_pos fits]
    exact ⟨_, _, rfl, .inl fits⟩
  · rw [if_neg fits]
    exact ⟨_, _, rfl, .inr ⟨_, Nat.not_le.1 fits, rfl, rfl⟩⟩

/-- The notice is an object, and the words for a failure are none. -/
theorem notice_ne_failure (size : Nat) (m : String) :
    (Budget.mk limit).notice size ≠ "Error: " ++ m := by
  intro same
  have first := congrArg (fun s => s.toList.head?) same
  rw [Budget.notice, Json.compact] at first
  simp [Json.write] at first

theorem keepsBudget_failure_iff (m : String) :
    KeepsBudget limit (toolFailure ("Error: " ++ m)) ↔ ("Error: " ++ m).utf8ByteSize ≤ limit := by
  constructor
  · rintro ⟨text, isError, same, fits | ⟨size, -, -, notice⟩⟩
    · cases same
      exact fits
    · cases same
      exact absurd notice.symm (notice_ne_failure size m)
  · intro fits
    exact ⟨_, _, rfl, .inl fits⟩

end Budgets

section Results

variable (s : Server) {request : Request} {id : Option RequestId} {j : Json}

/-- A result of a call comes from a tool that there is. -/
theorem result_of_call (method : request.method = "tools/call")
    (answered : (s.handle request).value = some (.success id j)) :
    ∃ call tool result, decodeParams ToolCall.decoder "tool call" request.params = .ok call ∧
      Tool.ofName? call.name = some tool ∧ (s.callTool call).value = .ok result ∧
      j = result.toJson := by
  by_cases version : request.version = "2.0"
  · have named : Method.ofName? request.method = some .toolsCall := by rw [method]; rfl
    rw [value_handle_of_method s version named] at answered
    obtain ⟨own, -, responded⟩ := Option.map_eq_some_iff.1 answered
    cases decoded : decodeParams ToolCall.decoder "tool call" request.params with
    | error e =>
      rw [answer_of_undecoded_call s decoded] at responded
      cases responded
    | ok call =>
      rw [answer_of_call s decoded, Traced.value_map] at responded
      cases called : (s.callTool call).value with
      | error e =>
        rw [called] at responded
        cases responded
      | ok result =>
        rw [called] at responded
        cases responded
        cases named : Tool.ofName? call.name with
        | none =>
          rw [callTool_of_unknown s named] at called
          cases called
        | some tool => exact ⟨call, tool, result, rfl, named, called, rfl⟩
  · rw [handle_of_other s version] at answered
    cases answered

/-- **Results keep the budget unless they tell of a failure.** A call of a tool that is answered by a
result was run. If the tool had a result, the answer is its text if that fits, and otherwise the notice
with the size of the text. If it failed, the answer is the words for the failure, however long. So the
answer keeps the budget exactly if the tool had a result or the words for its failure fit. -/
theorem result_keeps_budget_iff (method : request.method = "tools/call")
    (answered : (s.handle request).value = some (.success id j)) :
    ∃ call tool result, decodeParams ToolCall.decoder "tool call" request.params = .ok call ∧
      Tool.ofName? call.name = some tool ∧ j = ToolResult.toJson result ∧
      (∀ content, (tool.execute s.gateway call.arguments).value = .ok content →
        result = fitted s.config.maxResponseBytes (Json.pretty content)) ∧
      (∀ e, (tool.execute s.gateway call.arguments).value = .error e →
        result = ⟨[⟨"Error: " ++ e.message⟩], true⟩) ∧
      (KeepsBudget s.config.maxResponseBytes result ↔
        ∀ e, (tool.execute s.gateway call.arguments).value = .error e →
          ("Error: " ++ e.message).utf8ByteSize ≤ s.config.maxResponseBytes) := by
  obtain ⟨call, tool, result, decoded, named, called, rfl⟩ := s.result_of_call method answered
  refine ⟨call, tool, result, decoded, named, rfl, ?_⟩
  cases executed : (tool.execute s.gateway call.arguments).value with
  | ok content =>
    rw [callTool_of_ok s named executed] at called
    obtain rfl := Except.ok.inj called
    refine ⟨?_, nofun, iff_of_true (keepsBudget_fitted _ _) nofun⟩
    rintro content' ⟨⟩
    rfl
  | error e =>
    have accepts : ¬Refuses call.arguments tool := by
      intro refuses
      obtain ⟨m, refused⟩ := callTool_of_refuses s named refuses
      rw [refused] at called
      cases called
    have other := execute_of_accepts accepts executed
    rw [callTool_of_error s named executed other] at called
    obtain rfl := Except.ok.inj called
    refine ⟨nofun, ?_, ?_⟩
    · rintro e' ⟨⟩
      rfl
    · rw [keepsBudget_failure_iff]
      constructor
      · rintro fits e' ⟨⟩
        exact fits
      · intro fits
        exact fits e rfl

end Results

/-- A client asks for the tables of a source. -/
def tablesRequest (source : String) : Request := ⟨"2.0", some (.number 1), "tools/call",
  some (ToolCall.toJson ⟨"evidence-list-tables", .object [("source", .string source)]⟩)⟩

/-- A server without sources that may answer sixteen octets. -/
def narrowServer : Server :=
  { bareServer with config := { bareServer.config with maxResponseBytes := 16 } }

/-- A query without rows is answered within the budget. -/
theorem empty_result_keeps_budget :
    ∃ result, (narrowServer.handle (queryRequest "select 1")).value =
        some (.success (some (.number 1)) (ToolResult.toJson result)) ∧
      KeepsBudget 16 result := by
  have answered : (narrowServer.handle (queryRequest "select 1")).value =
      some (.success (some (.number 1)) (ToolResult.toJson ⟨[⟨"[]"⟩], false⟩)) := rfl
  obtain ⟨call, tool, result, decoded, named, same, -, -, keeps⟩ :=
    result_keeps_budget_iff narrowServer rfl answered
  refine ⟨result, same ▸ answered, keeps.2 ?_⟩
  cases decoded
  cases named
  exact nofun

/-- A source that is not there is told of at any length. -/
theorem failure_beyond_budget :
    (narrowServer.handle (tablesRequest "sales")).value =
      some (.success (some (.number 1))
        (ToolResult.toJson ⟨[⟨"Error: Source not found: sales"⟩], true⟩)) ∧
    ¬KeepsBudget 16 ⟨[⟨"Error: Source not found: sales"⟩], true⟩ := by
  refine ⟨rfl, ?_⟩
  intro keeps
  have fits := (keepsBudget_failure_iff "Source not found: sales").1 keeps
  exact absurd fits (by decide)

end DataShelf.Server
