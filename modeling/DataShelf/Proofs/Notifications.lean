import DataShelf.Proofs.Independence
import DataShelf.Proofs.Responses

/-!
# Notifications

A request is a notification if the object that it came from has no key `id`; one that is null is an
id (`id_eq_none_iff`). Whatever a method does, its response is held back at one place, so a
notification gets none and every other request gets one (`handle_eq_none_iff`). Requests of another
version do not come that far: they are answered even if they are notifications. So with the version
of the protocol a line that is a notification leaves no trace in what is written, and a line with an
id one line (`notifications_unanswered`).
-/

namespace DataShelf.Server
set_option autoImplicit false

open Rpc (Request RequestId Response)

/-! ### Requests without an id -/

section Ids

variable {request request' : Request} {j : Json}

/-- A field under `id` gives an id, and the fields besides it leave the id as it is. -/
theorem isSome_id_of_fields {fields : Json.Fields}
    (taken : fields.foldlM Request.layout.takeField request = .ok request') :
    request'.id.isSome ↔ request.id.isSome ∨ "id" ∈ fields.map (·.1) := by
  induction fields generalizing request with
  | nil =>
    cases taken
    simp
  | cons first rest ih =>
    obtain ⟨key, j⟩ := first
    rw [List.foldlM_cons] at taken
    obtain ⟨between, here, later⟩ := Json.bind_eq_ok_iff.1 taken
    rw [ih later, List.map_cons, List.mem_cons, ← or_assoc]
    refine or_congr_left ?_
    by_cases same : key = "id"
    · subst same
      obtain ⟨id, -, kept⟩ := takeField_id here
      simp [kept]
    · simp [(takeField_keeps here).1 same, Ne.symm same]

/-- The list form of a request has its id in the second place, before the method, so it has one. -/
theorem id_of_items {items : List Json}
    (decoded : Request.decoder.ofJson (.array items) = .ok request) :
    ∃ j id, items[1]? = some j ∧ RequestId.ofJson? j = some id ∧ request.id = some id := by
  change Request.layout.ofItems Request.layout.fields 0 Request.layout.blank items = _ at decoded
  match items with
  | [] => cases decoded
  | [version] =>
    obtain ⟨_, -, short⟩ := Json.bind_eq_ok_iff.1 decoded
    cases short
  | version :: j :: rest =>
    obtain ⟨_, -, behind⟩ := Json.bind_eq_ok_iff.1 decoded
    obtain ⟨change, read, behind⟩ := Json.bind_eq_ok_iff.1 behind
    obtain ⟨id, known, kept⟩ := id_of_change read
    refine ⟨j, id, rfl, known, ?_⟩
    -- What follows in the list is the method and the parameters, which leave the id alone.
    refine Json.Layout.ofItems_holds Request.layout (P := fun r => r.id = some id) ?_ (kept _) behind
    intro f member part _ change taken record held
    simp only [List.mem_cons, List.not_mem_nil, or_false] at member
    rcases member with rfl | rfl
    · obtain ⟨_, -, rfl⟩ := Json.map_eq_ok_iff.1 taken
      exact held
    · obtain ⟨_, -, rfl⟩ := Json.map_eq_ok_iff.1 taken
      exact held

/-- A request has no id exactly if it was an object without the key. -/
theorem id_eq_none_iff (decoded : Request.decoder.ofJson j = .ok request) :
    request.id = none ↔ ∃ fields, j = .object fields ∧ "id" ∉ fields.map (·.1) := by
  rw [← Option.not_isSome_iff_eq_none]
  cases j with
  | object fields =>
    have whole := (Json.Layout.ofJson_object Request.layout fields).symm.trans decoded
    obtain ⟨taken, folded, same⟩ := Json.bind_eq_ok_iff.1 whole
    split at same
    · cases same
    · obtain rfl := Except.ok.inj same
      simp [isSome_id_of_fields folded, Request.layout]
  | array items =>
    obtain ⟨_, id, -, -, given⟩ := id_of_items decoded
    simp [given]
  | _ => cases decoded

end Ids

/-! ### Handling -/

section Handling

variable (s : Server) {request : Request}

/-- A request is left without a response exactly if it is a notification of the right version. -/
theorem handle_eq_none_iff :
    (s.handle request).value = none ↔ request.id = none ∧ request.version = Rpc.version := by
  unfold handle
  split
  · next same => cases id : request.id <;> simp [Request.isNotification, same, id]
  · next other => simp [other]

/-- A response has the id of its request. -/
theorem id_of_handle {response : Response} (answered : (s.handle request).value = some response) :
    response.id = request.id := by
  unfold handle at answered
  split at answered
  · rw [Traced.value_bind, Traced.value_pure] at answered
    split at answered
    · cases answered
    · cases answered
      cases (s.outcome request).value <;> rfl
  · cases answered
    rfl

/-- What is answered to a line that decodes to a request is what the request is answered. -/
theorem respondTo_of_request {line : String} {j : Json} (read : Json.read line = .ok j)
    (decoded : Request.decoder.ofJson j = .ok request) (initialized : Bool) :
    (respondTo s initialized line).value.1 = (s.handle request).value := by
  simp [respondTo, parseLine, requestOf, read, decoded]

end Handling

/-! ### Serving -/

section Serving

variable (s : Server) {bytes : List UInt8} {line : String}

/-- Where a run comes to a line that is not answered, the writer stays as it is. -/
theorem serveLines_of_unanswered (spelled : Text.ofOctets? bytes = some line)
    (filled : Text.isAllBlank line = false) (sink : Sink) (initialized : Bool)
    (unanswered : (respondTo s initialized line).value.1 = none) (rest : List (List UInt8)) :
    (serveLines s sink initialized (bytes :: rest)).value.sink =
      (serveLines s sink initialized rest).value.sink ∧
    (serveLines s sink initialized (bytes :: rest)).value.failure =
      (serveLines s sink initialized rest).value.failure := by
  have fresh (initialized : Bool) :
      serveLines s sink initialized rest =
        Run.begin initialized [] <$> serveLines s sink false rest := by
    rw [← serveLines_begin, Sink.onto_nil]
  -- Such a line may still introduce the client, but what is written does not depend on that.
  rw [serveLines_text s sink initialized spelled filled, Traced.value_bind, unanswered]
  generalize (respondTo s initialized line).value.2 = introduced
  have goesOn : s.resume rest (wrote sink none introduced) = serveLines s sink introduced rest := rfl
  rw [goesOn, fresh introduced, fresh initialized]
  exact ⟨rfl, rfl⟩

/-- A line that is not answered leaves no trace in the writer, wherever it stands. -/
theorem sink_of_unanswered (spelled : Text.ofOctets? bytes = some line)
    (filled : Text.isAllBlank line = false)
    (unanswered : ∀ initialized, (respondTo s initialized line).value.1 = none)
    (sink : Sink) (initialized : Bool) (before after : List (List UInt8)) :
    (serveLines s sink initialized (before ++ bytes :: after)).value.sink =
      (serveLines s sink initialized (before ++ after)).value.sink ∧
    (serveLines s sink initialized (before ++ bytes :: after)).value.failure =
      (serveLines s sink initialized (before ++ after)).value.failure := by
  rw [serveLines_append, serveLines_append, Traced.value_bind, Traced.value_bind]
  generalize (serveLines s sink initialized before).value = run
  rw [resume, resume]
  cases run.failure with
  | none =>
    exact serveLines_of_unanswered s spelled filled run.sink run.initialized (unanswered _) after
  | some message => exact ⟨rfl, rfl⟩

/-- Without limit, a line that is reached adds what it is answered and nothing else. -/
theorem written_of_line (spelled : Text.ofOctets? bytes = some line)
    (filled : Text.isAllBlank line = false) (initialized : Bool) {before : List (List UInt8)}
    (reached : (serveLines s ⟨none, []⟩ initialized before).value.failure = none)
    (after : List (List UInt8)) :
    ∃ rest,
      (serveLines s ⟨none, []⟩ initialized (before ++ bytes :: after)).value.sink.written =
        (serveLines s ⟨none, []⟩ initialized before).value.sink.written ++
          (answerLine (respondTo s false line).value.1 ++ rest) ∧
      (serveLines s ⟨none, []⟩ initialized (before ++ after)).value.sink.written =
        (serveLines s ⟨none, []⟩ initialized before).value.sink.written ++ rest := by
  have one : (serveLines s ⟨none, []⟩ false [bytes]).value =
      ⟨⟨none, answerPieces (respondTo s false line).value.1⟩, (respondTo s false line).value.2,
        none⟩ := by
    rw [serveLines_one s _ false spelled filled, Traced.value_map, wrote_unlimited, List.append_nil]
  have whole := serveLines_joins s ⟨none, []⟩ initialized reached (bytes :: after)
  have absent := serveLines_joins s ⟨none, []⟩ initialized reached after
  have here := serveLines_joins s ⟨none, []⟩ false (congrArg Run.failure one) after
  rw [List.singleton_append, room_of_unlimited] at here
  rw [room_of_unlimited] at whole absent
  refine ⟨_, ?_, absent.written⟩
  rw [whole.written, here.written, one, written_answerPieces]

end Serving

/-- **Notifications.** A line that decodes to a request has no id exactly if it is an object without
the key. It gets no response exactly if it has no id and the version of the protocol, whatever its
method and parameters are, and then it makes no difference to what is written. Any other request gets
one response, with its id: one line behind what was written for the lines before, and before what is
written for the lines behind. -/
theorem notifications_unanswered (s : Server) (room : Option Nat) (initialized : Bool)
    {input bytes : List UInt8} {before after : List (List UInt8)} {line : String} {j : Json}
    {request : Request} (lines : linesOf input = before ++ bytes :: after)
    (spelled : Text.ofOctets? bytes = some line) (read : Json.read line = .ok j)
    (decoded : Request.decoder.ofJson j = .ok request) :
    let whole := serve s room initialized input
    let first := serveLines s ⟨room, []⟩ initialized before
    let absent := serveLines s ⟨room, []⟩ initialized (before ++ after)
    (request.id = none ↔ ∃ fields, j = .object fields ∧ "id" ∉ fields.map (·.1)) ∧
    ((s.handle request).value = none ↔ request.id = none ∧ request.version = "2.0") ∧
    (request.id = none → request.version = "2.0" →
      whole.value.sink = absent.value.sink ∧ whole.value.failure = absent.value.failure) ∧
    ∀ response, (s.handle request).value = some response →
      response.id = request.id ∧
      (room = none → first.value.failure = none → ∃ rest,
        whole.value.sink.written = first.value.sink.written ++
          (Json.compact response.toJson ++ "\n" ++ rest) ∧
        absent.value.sink.written = first.value.sink.written ++ rest) := by
  intro whole first absent
  have filled : Text.isAllBlank line = false := by
    rw [← Bool.not_eq_true]
    exact fun blank => read_of_isAllBlank blank j read
  have answered (initialized : Bool) := respondTo_of_request s read decoded initialized
  have served : whole = serveLines s ⟨room, []⟩ initialized (before ++ bytes :: after) := by
    show serveLines s ⟨room, []⟩ initialized (linesOf input) = _
    rw [lines]
  refine ⟨id_eq_none_iff decoded, handle_eq_none_iff s, fun bare version => ?_,
    fun response given => ⟨id_of_handle s given, fun unlimited reached => ?_⟩⟩
  · have unanswered := (handle_eq_none_iff s).2 ⟨bare, version⟩
    rw [served]
    exact sink_of_unanswered s spelled filled
      (fun initialized => (answered initialized).trans unanswered) ⟨room, []⟩ initialized before after
  · subst unlimited
    have written := written_of_line s spelled filled initialized reached after
    rw [answered, given] at written
    rw [served]
    exact written

/-- What a greeting says. -/
def greetingJson : Json := .object [
  ("jsonrpc", .string "2.0"), ("method", .string "initialize"),
  ("params", .object [
    ("protocolVersion", .string "1"), ("clientInfo", .object [("name", .string "c")])])]

theorem read_greeting : Json.read greeting = .ok greetingJson := by
  have text : greeting = Json.compact greetingJson := by decide
  rw [text]
  exact Json.read_compact (.object (by simp) (by simp))

/-- A greeting before a ping is taken and not answered: only the ping is. -/
theorem greeting_before_ping :
    linesOf (lineOf greeting ++ lineOf ping) =
      [] ++ Text.octets greeting :: [Text.octets ping] ∧
    Text.ofOctets? (Text.octets greeting) = some greeting ∧
    Json.read greeting = .ok greetingJson ∧
    ∃ request, Request.decoder.ofJson greetingJson = .ok request ∧ request.id = none ∧
      (bareServer.handle request).value = none ∧
      (serve bareServer none false (lineOf greeting ++ lineOf ping)).value.sink.written = pong := by
  have lines : linesOf (lineOf greeting ++ lineOf ping) =
      [] ++ Text.octets greeting :: [Text.octets ping] := by
    have first : linesOf (lineOf greeting) = [Text.octets greeting] :=
      linesOf_lineOf (by decide) (by decide)
    rw [linesOf_append (.inr (by simp [lineOf])), first, linesOf_ping]
    rfl
  have spelled := Text.ofOctets?_octets greeting
  obtain ⟨request, decoded, version⟩ : ∃ request,
      Request.decoder.ofJson greetingJson = .ok request ∧ request.version = "2.0" :=
    ⟨_, rfl, rfl⟩
  obtain ⟨bare, unanswered, silent, -⟩ :=
    notifications_unanswered bareServer none false lines spelled read_greeting decoded
  have id : request.id = none := bare.2 ⟨_, rfl, by simp⟩
  refine ⟨lines, spelled, read_greeting, request, decoded, id, unanswered.2 ⟨id, version⟩, ?_⟩
  rw [(silent id version).1]
  exact written_ping

/-- A ping of another version that does not ask for an answer. -/
def outdated : String := "\x7b\"jsonrpc\":\"1.0\",\"method\":\"ping\"\x7d"

/-- Such a ping is a notification, and it is answered. -/
theorem outdated_notification_is_answered :
    (∃ j request, Json.read outdated = .ok j ∧ Request.decoder.ofJson j = .ok request ∧
      request.isNotification ∧ (bareServer.handle request).value ≠ none) ∧
    (serve bareServer none false (lineOf outdated)).value.sink.written ≠ "" := by
  have text : outdated =
      Json.compact (.object [("jsonrpc", .string "1.0"), ("method", .string "ping")]) := by
    decide
  have read : Json.read outdated =
      .ok (.object [("jsonrpc", .string "1.0"), ("method", .string "ping")]) := by
    rw [text]
    exact Json.read_compact (.object (by simp) (by simp))
  have lines : linesOf (lineOf outdated) = [Text.octets outdated] :=
    linesOf_lineOf (by decide) (by decide)
  have answer : answerLine (respondTo bareServer false outdated).value.1 ≠ "" := by decide +kernel
  refine ⟨⟨_, _, read, rfl, rfl, ?_⟩, ?_⟩
  · rw [ne_eq, handle_eq_none_iff]
    decide
  · rw [serve, lines, serveLines_one _ _ _ (Text.ofOctets?_octets outdated) (by decide),
      Traced.value_map, wrote_unlimited, List.append_nil, written_answerPieces]
    exact answer

end DataShelf.Server
