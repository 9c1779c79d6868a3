import DataShelf.Proofs.Serving
import DataShelf.Proofs.WrittenScalars

/-!
# Requests do not influence each other

What is served behind a stream is served as by a server that has seen nothing (`serve_joins`), and
the end of the last line makes no difference (`serve_lineFeed`). The one thing that a server
remembers, whether a client has introduced itself, is told by the lines that it came to
(`initialized_lines`) and has no influence on anything else (`serve_initialized`).
-/

namespace DataShelf.Server
set_option autoImplicit false

open Rpc (Request Response)

/-! ### Introductions -/

/-- A line that introduces a client: a request of the version of the protocol for the method
`initialize`, with or without an id, whose parameters decode. -/
def Introduces (bytes : List UInt8) : Prop :=
  ∃ line j request params decoded,
    Text.ofOctets? bytes = some line ∧ Json.read line = .ok j ∧
    Request.decoder.ofJson j = .ok request ∧
    request.version = "2.0" ∧ request.method = "initialize" ∧ request.params = some params ∧
    Wire.InitializeParams.decoder.ofJson params = .ok decoded

theorem ofName?_eq_introduce_iff {name : String} :
    Method.ofName? name = some .introduce ↔ name = "initialize" := by
  unfold Method.ofName?
  by_cases same : name = "initialize"
  · simp [same]
  · rw [if_neg same]
    refine ⟨fun found => ?_, fun h => absurd h same⟩
    repeat' split at found
    all_goals simp at found

theorem introduces_iff {request : Request} :
    introduces request = true ↔
      request.version = "2.0" ∧ request.method = "initialize" ∧
      ∃ params decoded, request.params = some params ∧
        Wire.InitializeParams.decoder.ofJson params = .ok decoded := by
  rw [introduces, Bool.and_eq_true, Bool.and_eq_true, decide_eq_true_iff, decide_eq_true_iff,
    ofName?_eq_introduce_iff, and_assoc]
  refine and_congr_right fun _ => and_congr_right fun _ => ?_
  cases request.params with
  | none => simp [decodeParams, Except.isOk, Except.toBool]
  | some params =>
    cases decoded : Wire.InitializeParams.decoder.ofJson params with
    | error m => simp [decodeParams, decoded, Except.isOk, Except.toBool]
    | ok p => simp [decodeParams, decoded, Except.isOk, Except.toBool]

/-- White space is no digit. -/
theorem isDigit_of_isBlank {c : Char} (blank : Text.isBlank c = true) : Json.isDigit c = false := by
  rw [← Bool.not_eq_true, Json.isDigit_iff]
  simp only [Text.isBlank, Bool.or_eq_true, Bool.and_eq_true, decide_eq_true_iff, beq_iff_eq] at blank
  omega

/-- White space alone is no JSON text. -/
theorem read_of_isAllBlank {line : String} (blank : Text.isAllBlank line) (j : Json) :
    Json.read line ≠ .ok j := by
  intro read
  obtain ⟨rest, begins⟩ := Json.value_of_read read
  have inside : ∀ c ∈ Json.skipSpace line.toList, Text.isBlank c = true := by
    intro c member
    exact List.all_eq_true.1 blank c ((List.dropWhile_sublist _).subset member)
  rw [Json.value] at begins
  generalize Json.skipSpace line.toList = cs at begins inside
  cases cs with
  | nil => cases begins
  | cons c cs =>
    have here := inside c List.mem_cons_self
    have other (c' : Char) (dark : Text.isBlank c' = false) : c ≠ c' := by
      rintro rfl
      simp [dark] at here
    have scalar : Json.scalar (c :: cs) = Json.stopPeeked .wantsValue (c :: cs) := by
      simp [Json.scalar, other 'n' rfl, other 't' rfl, other 'f' rfl, other '"' rfl,
        other '-' rfl, isDigit_of_isBlank here]
    split at begins
    · next h => exact other '[' rfl (List.cons.inj h).1
    · next h => exact other '\x7b' rfl (List.cons.inj h).1
    · rw [scalar] at begins
      cases begins

section Lines

variable (s : Server)

theorem respondTo_introduces {line : String} :
    (respondTo s false line).value.2 = true ↔
      ∃ j request, Json.read line = .ok j ∧ Request.decoder.ofJson j = .ok request ∧
        introduces request = true := by
  cases read : Json.read line with
  | error fault => simp [respondTo, parseLine, read]
  | ok j =>
    cases decoded : Request.decoder.ofJson j with
    | error m => simp [respondTo, parseLine, requestOf, read, decoded]
    | ok request => simp [respondTo, parseLine, requestOf, read, decoded]

theorem initialized_wrote (sink : Sink) (response : Option Response) (initialized : Bool) :
    (wrote sink response initialized).initialized = initialized := by
  unfold wrote
  split <;> rfl

/-- One line introduces a client or leaves it at that. -/
theorem initialized_line (sink : Sink) (initialized : Bool) (bytes : List UInt8) :
    (serveLines s sink initialized [bytes]).value.initialized = true ↔
      initialized = true ∨ Introduces bytes := by
  rcases line_cases bytes with unreadable | ⟨line, spelled, blank⟩ | ⟨line, spelled, filled⟩
  · have other : ¬Introduces bytes := by
      rintro ⟨line, _, _, _, _, spelled, -⟩
      simp [unreadable] at spelled
    simp [serveLines_unreadable s sink initialized unreadable, other]
  · have other : ¬Introduces bytes := by
      rintro ⟨line', j, _, _, _, spelled', read, -⟩
      obtain rfl : line = line' := Option.some.inj (spelled.symm.trans spelled')
      exact read_of_isAllBlank blank j read
    simp [serveLines_blank s sink initialized spelled blank, other]
  · have introduces : (respondTo s false line).value.2 = true ↔ Introduces bytes := by
      simp [respondTo_introduces, introduces_iff, Introduces, spelled]
    rw [serveLines_one s sink initialized spelled filled, respondTo_initialized, Traced.value_map,
      Traced.value_map, initialized_wrote, Bool.or_eq_true, introduces]

/-- Whether a client has introduced itself after some lines. -/
theorem initialized_lines (sink : Sink) (initialized : Bool) (lines : List (List UInt8)) :
    (serveLines s sink initialized lines).value.initialized = true ↔
      initialized = true ∨ ∃ before line after, lines = before ++ line :: after ∧
        (serveLines s sink initialized before).value.failure = none ∧ Introduces line := by
  induction lines using List.reverseRecOn with
  | nil => simp
  | append_singleton lines bytes ih =>
    -- The last line counts if the run comes that far.
    have last : (∃ before line after, lines ++ [bytes] = before ++ line :: after ∧
          (serveLines s sink initialized before).value.failure = none ∧ Introduces line) ↔
        (∃ before line after, lines = before ++ line :: after ∧
          (serveLines s sink initialized before).value.failure = none ∧ Introduces line) ∨
        (serveLines s sink initialized lines).value.failure = none ∧ Introduces bytes := by
      constructor
      · rintro ⟨before, line, after, split, reached, introduces⟩
        rcases List.eq_nil_or_concat' after with rfl | ⟨after, bytes', rfl⟩
        · obtain ⟨rfl, same⟩ := List.append_inj' split rfl
          obtain rfl : bytes = line := by simpa using same
          exact .inr ⟨reached, introduces⟩
        · rw [← List.cons_append, ← List.append_assoc] at split
          obtain ⟨rfl, -⟩ := List.append_inj' split rfl
          exact .inl ⟨before, line, after, rfl, reached, introduces⟩
      · rintro (⟨before, line, after, rfl, reached, introduces⟩ | ⟨reached, introduces⟩)
        · exact ⟨before, line, after ++ [bytes], by simp, reached, introduces⟩
        · exact ⟨lines, bytes, [], rfl, reached, introduces⟩
    rw [serveLines_append, Traced.value_bind, last, ← or_assoc, ← ih, resume]
    generalize (serveLines s sink initialized lines).value = run
    cases failed : run.failure with
    | none => simpa using initialized_line s run.sink run.initialized bytes
    | some message => simp

end Lines

/-! ### Streams -/

section Streams

variable (s : Server) (room : Option Nat) (initialized : Bool) {a b : List UInt8}

/-- What comes behind a stream that was served is served as by a server that has seen nothing, with
the writer as it is by then. -/
theorem serve_joins (ended : Ended a)
    (served : (serve s room initialized a).value.failure = none) (b : List UInt8) :
    Joins (serve s room initialized a)
      (serve s (serve s room initialized a).value.sink.room false b)
      (serve s room initialized (a ++ b)) := by
  have joins := serveLines_joins s ⟨room, []⟩ initialized served (linesOf b)
  rw [← linesOf_append ended] at joins
  exact joins

/-- A line feed at the end makes no difference, unless there is a carriage return before it. -/
theorem serve_lineFeed (other : a.getLast? ≠ some 13) :
    serve s room initialized (a ++ [10]) = serve s room initialized a := by
  have empty : Text.ofOctets? [] = some "" := rfl
  have blank : s.resume [[]] = pure := by
    funext run
    obtain ⟨sink, initialized, failure⟩ := run
    cases failure with
    | none => exact serveLines_blank s sink initialized empty rfl []
    | some message => rfl
  rw [serve, serve]
  rcases linesOf_lineFeed other with same | more
  · rw [same]
  · rw [more, serveLines_append, blank, bind_pure]

/-- Whether a client has introduced itself before makes no difference but for being remembered. -/
theorem serve_initialized (a : List UInt8) :
    serve s room initialized a = Run.begin initialized [] <$> serve s room false a := by
  have fresh := serveLines_begin s ⟨room, []⟩ initialized [] (linesOf a)
  rwa [Sink.onto_nil] at fresh

/-- **Requests do not influence each other.** Let one stream end in a line feed and be served without
a failure: then what follows it is answered as by a server that has seen nothing, with the writer as
the first one leaves it, and one without limit stays one. A last line is the same with a line feed
and without, but for a carriage return. A client has introduced itself if it had before or does so
in a line that is served, and that has no influence on what is written, done or failed at. -/
theorem requests_are_independent (a b : List UInt8) :
    (a.getLast? = some 10 → (serve s room initialized a).value.failure = none →
      let first := serve s room initialized a
      let second := serve s first.value.sink.room false b
      let whole := serve s room initialized (a ++ b)
      whole.value.sink.written = first.value.sink.written ++ second.value.sink.written ∧
      whole.calls = first.calls ++ second.calls ∧
      whole.value.failure = second.value.failure) ∧
    (serve s none initialized a).value.sink.room = none ∧
    (a.getLast? ≠ some 13 → serve s room initialized (a ++ [10]) = serve s room initialized a) ∧
    ((serve s room initialized a).value.initialized = true ↔
      initialized = true ∨ ∃ before line after, linesOf a = before ++ line :: after ∧
        (serveLines s ⟨room, []⟩ initialized before).value.failure = none ∧ Introduces line) ∧
    (serve s room initialized a).events = (serve s room false a).events ∧
    (serve s room initialized a).value.sink = (serve s room false a).value.sink ∧
    (serve s room initialized a).value.failure = (serve s room false a).value.failure := by
  refine ⟨?_, room_of_unlimited s initialized [] (linesOf a), serve_lineFeed s room initialized,
    initialized_lines s ⟨room, []⟩ initialized (linesOf a), ?_, ?_, ?_⟩
  · intro ended served
    have joins := serve_joins s room initialized (.inr ended) served b
    exact ⟨joins.written, joins.calls, joins.failure⟩
  · rw [serve_initialized, Traced.events_map]
  · rw [serve_initialized, Traced.value_map, Run.begin, Sink.onto_nil]
  · rw [serve_initialized, Traced.value_map, Run.begin]

end Streams

/-- A client introduces itself and does not ask for an answer. -/
def greeting : String :=
  "\x7b\"jsonrpc\":\"2.0\",\"method\":\"initialize\",\"params\":\x7b\"protocolVersion\":\"1\"," ++
    "\"clientInfo\":\x7b\"name\":\"c\"\x7d\x7d\x7d"

/-- A ping behind a greeting is answered like a ping alone, with a line feed and without. -/
theorem ping_behind_greeting :
    (lineOf greeting).getLast? = some 10 ∧
    (serve bareServer none false (lineOf greeting)).value.failure = none ∧
    (Text.octets ping).getLast? ≠ some 13 ∧
    (serve bareServer none false (lineOf greeting ++ lineOf ping)).value.sink.written =
      (serve bareServer none false (lineOf greeting)).value.sink.written ++
        (serve bareServer none false (Text.octets ping)).value.sink.written := by
  have ended : (lineOf greeting).getLast? = some 10 := by simp [lineOf]
  have other : (Text.octets ping).getLast? ≠ some 13 := by decide
  have lines : linesOf (lineOf greeting) = [Text.octets greeting] :=
    linesOf_lineOf (by decide) (by decide)
  have served : (serve bareServer none false (lineOf greeting)).value.failure = none := by
    rw [serve, failure_of_unlimited, lines]
    simp [Text.ofOctets?_octets]
  obtain ⟨apart, unlimited, -⟩ :=
    requests_are_independent bareServer none false (lineOf greeting) (lineOf ping)
  obtain ⟨-, -, feed, -⟩ := requests_are_independent bareServer none false (Text.octets ping) []
  obtain ⟨written, -⟩ := apart ended served
  have same : serve bareServer none false (lineOf ping) =
      serve bareServer none false (Text.octets ping) := feed other
  refine ⟨ended, served, other, ?_⟩
  rw [written, unlimited, same]

end DataShelf.Server
