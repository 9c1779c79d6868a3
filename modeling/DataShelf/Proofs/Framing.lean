import DataShelf.Proofs.Responses
import DataShelf.Proofs.Serving

/-!
# Framing and correlation of responses

What is written for lines of text is a response and the end of a line for each line that gets one, in
the order of the lines, as far as there is room (`written_lines`). The response to a line is one line,
is read as the value that it was, and has the id of its request (`framed_reply`).
-/

namespace DataShelf.Server
set_option autoImplicit false

open Rpc (Request Response)

section Replies

variable (s : Server)

/-- The response to a line that is not blank, if it gets one. -/
def reply (line : String) : Option Response := (respondTo s false line).value.1

/-- What is written for lines: for each its response, if it gets one, and the end of a line. -/
def repliesTo (lines : List String) : String :=
  String.join (lines.map fun line => answerLine (s.reply line))

/-- The lines that are to be answered: those that are not blank. -/
def requestLines (lines : List (List UInt8)) : List String :=
  (lines.filterMap Text.ofOctets?).filter fun line => !Text.isAllBlank line

/-- What can be there of the first of some lines that did not fit: nothing, or its response without
the end of its line. -/
def Cut (rest : List String) (cut : String) : Prop :=
  cut = "" ∨ ∃ line behind response,
    rest = line :: behind ∧ s.reply line = some response ∧ cut = Json.compact response.toJson

/-- The reply to a line is the answer to what it is parsed as. -/
theorem reply_eq (line : String) : s.reply line = s.answerTo (parseLine line).value := by
  unfold reply respondTo
  rw [Traced.value_bind]
  cases (parseLine line).value with
  | error response => rfl
  | ok request => rfl

theorem reply_of_respondTo (initialized : Bool) (line : String) :
    (respondTo s initialized line).value.1 = s.reply line := by
  rw [respondTo_initialized, Traced.value_map, reply]

/-- A response has the form of one, with the id of its request: null where the request is no JSON or
has no id, and what is no list has its id under `id`. -/
theorem framed_reply {line : String} {response : Response} (answered : s.reply line = some response) :
    match Json.read line with
    | .error _ => Framed response .null
    | .ok (.array _) => ∃ id, Framed response id
    | .ok j => Framed response (echoedId j) := by
  rw [reply_eq] at answered
  cases read : Json.read line with
  | error fault =>
    simp only [parseLine, read, Traced.value_bind, Traced.value_pure, answerTo,
      Option.some.injEq] at answered
    obtain rfl := answered
    have unnamed : IdFits none := by simp [IdFits]
    exact framed_failure unnamed (sendable_refusal _ (by decide) _)
  | ok j =>
    have once := Json.keysOnce_of_read read
    obtain ⟨rest, begins⟩ := Json.value_of_read read
    have fits : ∀ n, .integer n ∈ j.parts → Json.Fits n := fun n => Json.fits_of_part begins
    simp only [parseLine, read] at answered
    obtain ⟨id, framed, own⟩ := framed_requestOf s once fits answered
    have echoed (other : ∀ items, j ≠ .array items) : Framed response (echoedId j) := by
      rw [own other, idJson_of_field fits] at framed
      exact framed
    cases j with
    | array items => exact ⟨_, framed⟩
    | _ => exact echoed (by simp)

/-- What is written for lines of text, in their order, as far as there is room. -/
theorem written_lines (sink : Sink) (initialized : Bool) {lines : List (List UInt8)}
    (texts : ∀ bytes ∈ lines, Text.ofOctets? bytes ≠ none) :
    ∃ served rest cut, requestLines lines = served ++ rest ∧
      (serveLines s sink initialized lines).value.sink.written =
        sink.written ++ (s.repliesTo served ++ cut) ∧
      s.Cut rest cut ∧ (sink.room = none → rest = []) := by
  induction lines generalizing sink initialized with
  | nil => exact ⟨[], [], "", rfl, by simp [repliesTo], .inl rfl, fun _ => rfl⟩
  | cons bytes lines ih =>
    obtain ⟨here, later⟩ := List.forall_mem_cons.1 texts
    rcases line_cases bytes with unreadable | ⟨line, spelled, blank⟩ | ⟨line, spelled, filled⟩
    · exact absurd unreadable here
    · rw [serveLines_blank s sink initialized spelled blank]
      simpa [requestLines, spelled, blank] using ih sink initialized later
    · have first : requestLines (bytes :: lines) = line :: requestLines lines := by
        simp [requestLines, spelled, filled]
      rw [serveLines_text s sink initialized spelled filled, Traced.value_bind, first, wrote,
        reply_of_respondTo]
      have cases := sink.answer_cases (s.reply line)
      generalize sink.answer (s.reply line) = written at cases ⊢
      obtain ⟨sink', room⟩ := written
      dsimp only at cases
      rcases cases with ⟨rfl, whole, unlimited⟩ | ⟨rfl, limited, response, answered, part⟩
      · obtain ⟨served, rest, cut, split, written, left, all⟩ := ih sink' _ later
        refine ⟨line :: served, rest, cut, by rw [split, List.cons_append], ?_, left,
          fun free => all (unlimited.1 free)⟩
        rw [resume, written, whole]
        simp [repliesTo, String.join_cons, String.append_assoc]
      · refine ⟨[], line :: requestLines lines, ?_⟩
        rcases part with nothing | text
        · exact ⟨"", rfl, by simpa [repliesTo, resume] using nothing, .inl rfl,
            fun free => absurd free limited⟩
        · exact ⟨_, rfl, by simpa [repliesTo, resume] using text,
            .inr ⟨line, _, response, rfl, answered, rfl⟩, fun free => absurd free limited⟩

/-- **Framing and correlation.** The lines of a text are texts. Those that are not blank are answered
in their order, each by a response and the end of its line or not at all; only where a writer is full
the rest gets no answer, and the first of the rest maybe its response without the end of the line.
The text of a response is one line and is read as the response, which has the version and a result
or an error. A line that is an object is answered with its id if that is a text, null or an integer
of 64 bits with a sign; with the id null otherwise, and if it is no JSON. -/
theorem responses_are_framed (room : Option Nat) (initialized : Bool) {input : List UInt8}
    {text : String} (spelled : Text.ofOctets? input = some text) :
    (∀ bytes ∈ linesOf input, Text.ofOctets? bytes ≠ none) ∧
    (∃ served rest cut, requestLines (linesOf input) = served ++ rest ∧
      (serve s room initialized input).value.sink.written = s.repliesTo served ++ cut ∧
      s.Cut rest cut ∧ (room = none → rest = [])) ∧
    ∀ line response, s.reply line = some response →
      match Json.read line with
      | .error _ => Framed response .null
      | .ok (.array _) => ∃ id, Framed response id
      | .ok j => Framed response (echoedId j) := by
  have texts := texts_of_text spelled
  refine ⟨texts, ?_, fun line response => framed_reply s⟩
  obtain ⟨served, rest, cut, split, written, left, all⟩ :=
    written_lines s ⟨room, []⟩ initialized texts
  refine ⟨served, rest, cut, split, ?_, left, all⟩
  rw [serve, written]
  exact String.empty_append

end Replies

/-- A ping with an id is answered once, with that id. -/
theorem framed_ping :
    Text.ofOctets? (lineOf ping) = some (ping ++ "\n") ∧
    (serve bareServer none false (lineOf ping)).value.sink.written =
      bareServer.repliesTo [ping] ∧
    ∃ response, bareServer.reply ping = some response ∧ Framed response (.integer 1) := by
  have spelled : Text.ofOctets? (lineOf ping) = some (ping ++ "\n") := by
    have octets : lineOf ping = Text.octets (ping ++ "\n") := by
      rw [Text.octets_append]
      rfl
    rw [octets, Text.ofOctets?_octets]
  obtain ⟨-, ⟨served, rest, cut, split, written, left, all⟩, framed⟩ :=
    responses_are_framed bareServer none false spelled
  obtain rfl : rest = [] := all rfl
  have nothing : cut = "" := by
    rcases left with nothing | ⟨_, _, _, more, -⟩
    · exact nothing
    · cases more
  have lines : requestLines (linesOf (lineOf ping)) = [ping] := by
    have filled : Text.isAllBlank ping = false := by decide
    simp [linesOf_ping, requestLines, Text.ofOctets?_octets, filled]
  obtain ⟨response, answered⟩ : ∃ response, bareServer.reply ping = some response := by
    have answers : (bareServer.reply ping).isSome := by decide
    exact Option.isSome_iff_exists.1 answers
  refine ⟨spelled, ?_, response, answered, ?_⟩
  · rw [written, nothing, ← List.append_nil served, ← split, lines]
    exact String.append_empty
  · have text : ping = Json.compact (.object
        [("jsonrpc", .string "2.0"), ("id", .integer 1), ("method", .string "ping")]) := by
      decide
    have read := Json.read_compact (j := .object
      [("jsonrpc", .string "2.0"), ("id", .integer 1), ("method", .string "ping")])
      (.object (by simp) (by simp [Json.Fits]))
    have here := framed ping response answered
    rw [text, read] at here
    exact here

end DataShelf.Server
