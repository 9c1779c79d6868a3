import DataShelf.Proofs.Serving

/-!
# Lines that are no JSON

With a writer that is never full, a line of text that is no JSON is answered by one error and leaves
nothing behind: the lines before it and behind it are served as if it were not there. A line that is
no text is not answered and ends the service, so a stream is read to its end exactly if all its lines
are texts (`bad_lines`).
-/

namespace DataShelf.Server
set_option autoImplicit false

open Rpc (Response)

/-- The answer to a line that is no JSON. -/
def parseFailure (message : String) : Response :=
  .failure none (.of .parseError ("Invalid JSON: " ++ message))

section BadLines

variable (s : Server) (initialized : Bool) {bytes : List UInt8} {text : String}

theorem respondTo_of_fault {fault : Json.Fault} (bad : Json.read text = .error fault) :
    (respondTo s initialized text).value =
      (some (parseFailure (fault.message text.toList)), initialized) ∧
    (respondTo s initialized text).calls = [] := by
  simp [respondTo, parseLine, bad, parseFailure]

/-- A line that is no JSON is answered, and nothing else is done. -/
theorem serveLines_of_fault (spelled : Text.ofOctets? bytes = some text)
    (filled : Text.isAllBlank text = false) {fault : Json.Fault}
    (bad : Json.read text = .error fault) :
    (serveLines s ⟨none, []⟩ initialized [bytes]).value =
      ⟨⟨none, answerPieces (some (parseFailure (fault.message text.toList)))⟩, initialized, none⟩ ∧
    (serveLines s ⟨none, []⟩ initialized [bytes]).calls = [] := by
  obtain ⟨value, calls⟩ := respondTo_of_fault s initialized bad
  rw [serveLines_one s _ initialized spelled filled]
  constructor
  · rw [Traced.value_map, value, wrote_unlimited, List.append_nil]
  · rw [Traced.calls_map, calls]

theorem failure_eq_none_iff (lines : List (List UInt8)) :
    (serveLines s ⟨none, []⟩ initialized lines).value.failure = none ↔
      ∀ bytes ∈ lines, Text.ofOctets? bytes ≠ none := by
  rw [failure_of_unlimited]
  split <;> simp_all

/-- Without limit, lines behind others are served as by a server that has seen nothing. -/
theorem serveLines_joins_unlimited {before : List (List UInt8)}
    (texts : ∀ bytes ∈ before, Text.ofOctets? bytes ≠ none) (after : List (List UInt8)) :
    Joins (serveLines s ⟨none, []⟩ initialized before) (serveLines s ⟨none, []⟩ false after)
      (serveLines s ⟨none, []⟩ initialized (before ++ after)) := by
  have served := (failure_eq_none_iff s initialized before).2 texts
  have joins := serveLines_joins s ⟨none, []⟩ initialized served after
  rwa [room_of_unlimited] at joins

/-- Behind a line that is no JSON all is as if it were not there. -/
theorem serveLines_cons_of_fault (spelled : Text.ofOctets? bytes = some text)
    (filled : Text.isAllBlank text = false) {fault : Json.Fault}
    (bad : Json.read text = .error fault) (after : List (List UInt8)) :
    let rest := serveLines s ⟨none, []⟩ false after
    let whole := serveLines s ⟨none, []⟩ false (bytes :: after)
    whole.value.sink.written =
      Json.compact (parseFailure (fault.message text.toList)).toJson ++ "\n" ++
        rest.value.sink.written ∧
    whole.calls = rest.calls ∧ whole.value.initialized = rest.value.initialized ∧
    whole.value.failure = rest.value.failure := by
  obtain ⟨value, calls⟩ := serveLines_of_fault s false spelled filled bad
  have texts : ∀ bytes' ∈ [bytes], Text.ofOctets? bytes' ≠ none := by
    simp [spelled]
  have joins := serveLines_joins_unlimited s false texts after
  rw [List.singleton_append] at joins
  refine ⟨?_, ?_, ?_, joins.failure⟩
  · rw [joins.written, value, written_answerPieces]
    rfl
  · rw [joins.calls, calls, List.nil_append]
  · rw [joins.initialized, value, Bool.false_or]

end BadLines

/-- **Lines that are no JSON.** With a writer that is never full, a stream is read to its end exactly
if each of its lines is a text. The first line that is none ends the service without an answer. A
line that is a text and no JSON is answered by one error without an id, and all else is as if the
line were not there. -/
theorem bad_lines (s : Server) (initialized : Bool) (input : List UInt8) :
    ((serve s none initialized input).value.failure = none ↔
      ∀ bytes ∈ linesOf input, Text.ofOctets? bytes ≠ none) ∧
    ∀ before bytes after, linesOf input = before ++ bytes :: after →
      (∀ bytes ∈ before, Text.ofOctets? bytes ≠ none) →
      let whole := serve s none initialized input
      let first := serveLines s ⟨none, []⟩ initialized before
      let absent := serveLines s ⟨none, []⟩ initialized (before ++ after)
      match Text.ofOctets? bytes with
      | none =>
        whole.value.sink.written = first.value.sink.written ∧ whole.calls = first.calls ∧
        whole.value.failure = some unreadableMessage
      | some text =>
        Text.isAllBlank text = false → ∀ fault, Json.read text = .error fault →
          ∃ message rest,
            whole.value.sink.written = first.value.sink.written ++
              (Json.compact (Response.failure none ⟨-32700, message, none⟩).toJson ++ "\n" ++ rest) ∧
            absent.value.sink.written = first.value.sink.written ++ rest ∧
            whole.calls = absent.calls ∧
            whole.value.initialized = absent.value.initialized ∧
            whole.value.failure = absent.value.failure := by
  refine ⟨failure_eq_none_iff s initialized (linesOf input), ?_⟩
  intro before bytes after split texts whole first absent
  have joins : Joins first (serveLines s ⟨none, []⟩ false (bytes :: after)) whole := by
    have joins := serveLines_joins_unlimited s initialized texts (bytes :: after)
    rwa [← split] at joins
  have without : Joins first (serveLines s ⟨none, []⟩ false after) absent :=
    serveLines_joins_unlimited s initialized texts after
  cases spelled : Text.ofOctets? bytes with
  | none =>
    rw [serveLines_unreadable s _ false spelled] at joins
    refine ⟨?_, ?_, joins.failure⟩
    · rw [joins.written, Traced.value_pure]
      exact String.append_empty
    · rw [joins.calls, Traced.calls_pure, List.append_nil]
  | some text =>
    intro filled fault bad
    obtain ⟨written, calls, flag, failure⟩ :=
      serveLines_cons_of_fault s spelled filled bad after
    refine ⟨"Invalid JSON: " ++ fault.message text.toList, _, ?_, without.written, ?_, ?_, ?_⟩
    · rw [joins.written, written]
      rfl
    · rw [joins.calls, calls, without.calls]
    · rw [joins.initialized, flag, without.initialized]
    · rw [joins.failure, failure, without.failure]

/-- A ping behind a word that is no JSON is answered as it is alone. -/
theorem ping_behind_word : ∃ message,
    (serve bareServer none false (lineOf "word" ++ lineOf ping)).value.sink.written =
      Json.compact (Response.failure none ⟨-32700, message, none⟩).toJson ++ "\n" ++ pong := by
  have word : linesOf (lineOf "word") = [Text.octets "word"] :=
    linesOf_lineOf (by decide) (by decide)
  have lines : linesOf (lineOf "word" ++ lineOf ping) =
      [] ++ Text.octets "word" :: [Text.octets ping] := by
    rw [linesOf_append (.inr (by simp [lineOf])), word, linesOf_ping]
    rfl
  obtain ⟨fault, bad⟩ : ∃ fault, Json.read "word" = .error fault := by
    have refused : (Json.read "word").isOk = false := by decide
    cases read : Json.read "word" with
    | error fault => exact ⟨fault, rfl⟩
    | ok j => simp [read, Except.isOk, Except.toBool] at refused
  have answered := (bad_lines bareServer false (lineOf "word" ++ lineOf ping)).2 []
    (Text.octets "word") [Text.octets ping] lines (by simp)
  rw [Text.ofOctets?_octets] at answered
  obtain ⟨message, rest, whole, absent, -⟩ := answered (by decide) fault bad
  have same : rest = pong := by
    rw [List.nil_append, written_ping] at absent
    exact absent.symm
  refine ⟨message, ?_⟩
  rw [whole, same]
  exact String.empty_append

/-- A line that is no text is not answered, and neither is a ping behind it, which is answered
alone. -/
theorem ping_behind_unreadable :
    (serve bareServer none false ([255, 10] ++ lineOf ping)).value.failure ≠ none ∧
    (serve bareServer none false ([255, 10] ++ lineOf ping)).value.sink.written = "" ∧
    (serve bareServer none false (lineOf ping)).value.sink.written = pong := by
  have unreadable : Text.ofOctets? [255] = none := by decide
  have unbroken : (10 : UInt8) ∉ [255] := by decide
  have lines : linesOf ([255, 10] ++ lineOf ping) = [255] :: linesOf (lineOf ping) :=
    linesOf_cons unbroken (lineOf ping)
  have alone : (serve bareServer none false (lineOf ping)).value.sink.written = pong := by
    rw [serve, linesOf_ping, written_ping]
  refine ⟨?_, ?_, alone⟩
  · rw [serve, lines, serveLines_unreadable _ _ _ unreadable]
    decide
  · rw [serve, lines, serveLines_unreadable _ _ _ unreadable]
    decide

end DataShelf.Server
