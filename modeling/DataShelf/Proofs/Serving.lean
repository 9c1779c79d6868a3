import DataShelf.Proofs.Lines
import DataShelf.Proofs.ObjectKeys
import DataShelf.Proofs.Trace

/-!
# Serving line by line

A run over some lines and then others goes on where the first part stopped (`serveLines_append`).
What a run finds, that is what was written before it and whether a client has introduced itself,
comes back beside what it does and changes nothing else (`serveLines_begin`). So the one thing that
is left of the lines before is the room of the writer (`serveLines_joins`).
-/

namespace DataShelf.Server
set_option autoImplicit false

open Rpc (Request Response)

/-! ### Writing -/

/-- The line that is written for a response. -/
def answerLine : Option Response → String
  | none => ""
  | some r => Json.compact r.toJson ++ "\n"

namespace Sink

/-- Writes a response if there is one. Answers also whether there was room. -/
def answer (s : Sink) : Option Response → Sink × Bool
  | none => (s, true)
  | some r => s.writeResponse r

/-- The writer of a sink behind pieces that were written before. -/
def onto (s : Sink) (below : List String) : Sink := ⟨s.room, s.pieces ++ below⟩

variable (s : Sink) (below : List String)

@[simp] theorem onto_nil : s.onto [] = s := by
  simp [onto]

@[simp] theorem room_onto : (s.onto below).room = s.room := rfl

theorem written_onto (room : Option Nat) :
    (s.onto below).written = (Sink.mk room below).written ++ s.written := by
  simp [written, onto, String.join_append]

/-- What lies below decides nothing about whether a piece is written. -/
theorem write?_onto (piece : String) :
    (s.onto below).write? piece = (s.write? piece).map fun s => s.onto below := by
  rw [write?, write?, room_onto]
  cases s.room with
  | none => rfl
  | some room =>
    dsimp only
    split <;> rfl

/-- What lies below decides nothing about whether a response is written. -/
theorem writeResponse_onto (r : Response) :
    (s.onto below).writeResponse r = ((s.writeResponse r).1.onto below, (s.writeResponse r).2) := by
  rw [writeResponse, writeResponse, write?_onto]
  cases s.write? (Json.compact r.toJson) with
  | none => rfl
  | some s =>
    rw [Option.map_some]
    dsimp only
    rw [write?_onto]
    cases s.write? "\n" <;> rfl

/-- A piece that is written stands behind what was written before. -/
theorem written_of_write? {s s' : Sink} {piece : String} (wrote : s.write? piece = some s') :
    s'.written = s.written ++ piece ∧ (s.room = none ↔ s'.room = none) := by
  have more (room : Option Nat) :
      (Sink.mk room (piece :: s.pieces)).written = s.written ++ piece := by
    simp [written, String.join_append, String.join_cons]
  unfold write? at wrote
  split at wrote
  · next unlimited =>
    cases wrote
    exact ⟨more _, .rfl⟩
  · next room limited =>
    split at wrote
    · cases wrote
    · cases wrote
      exact ⟨more _, by simp [limited]⟩

/-- Only a writer with a limit refuses a piece. -/
theorem room_of_write? {s : Sink} {piece : String} (full : s.write? piece = none) :
    s.room ≠ none := by
  intro unlimited
  simp [write?, unlimited] at full

/-- What is written of a response: all of it and the end of its line, or, where there is not enough
room, all of it or nothing. -/
theorem answer_cases (r : Option Response) :
    ((s.answer r).2 = true ∧ (s.answer r).1.written = s.written ++ answerLine r ∧
      (s.room = none ↔ (s.answer r).1.room = none)) ∨
    (s.answer r).2 = false ∧ s.room ≠ none ∧ ∃ response, r = some response ∧
      ((s.answer r).1.written = s.written ∨
        (s.answer r).1.written = s.written ++ Json.compact response.toJson) := by
  cases r with
  | none => exact .inl ⟨rfl, by simp [answer, answerLine], .rfl⟩
  | some r =>
    rw [answer, writeResponse]
    cases first : s.write? (Json.compact r.toJson) with
    | none => exact .inr ⟨rfl, room_of_write? first, r, rfl, .inl rfl⟩
    | some s' =>
      obtain ⟨text, room⟩ := written_of_write? first
      dsimp only
      cases second : s'.write? "\n" with
      | none => exact .inr ⟨rfl, room.not.2 (room_of_write? second), r, rfl, .inr text⟩
      | some s'' =>
        obtain ⟨line, room'⟩ := written_of_write? second
        refine .inl ⟨rfl, ?_, room.trans room'⟩
        rw [line, text, answerLine, String.append_assoc]

/-- What lies below decides nothing about an answer. -/
theorem answer_onto (r : Option Response) :
    (s.onto below).answer r = ((s.answer r).1.onto below, (s.answer r).2) := by
  cases r with
  | none => rfl
  | some r => exact writeResponse_onto s below r

end Sink

/-! ### One line -/

section Lines

variable (s : Server) (sink : Sink) (initialized : Bool) {bytes : List UInt8} {line : String}

/-- Goes on with a run, unless it has failed. -/
def resume (lines : List (List UInt8)) (run : Run) : Traced Run :=
  match run.failure with
  | none => serveLines s run.sink run.initialized lines
  | some _ => return run

@[simp] theorem serveLines_nil :
    serveLines s sink initialized [] = pure ⟨sink, initialized, none⟩ := rfl

/-- A line that is not text ends the service. -/
theorem serveLines_unreadable (unreadable : Text.ofOctets? bytes = none)
    (rest : List (List UInt8)) :
    serveLines s sink initialized (bytes :: rest) =
      pure ⟨sink, initialized, some unreadableMessage⟩ := by
  rw [serveLines, unreadable]

/-- A blank line is passed over. -/
theorem serveLines_blank (spelled : Text.ofOctets? bytes = some line) (blank : Text.isAllBlank line)
    (rest : List (List UInt8)) :
    serveLines s sink initialized (bytes :: rest) = serveLines s sink initialized rest := by
  rw [serveLines, spelled]
  dsimp only
  rw [if_pos blank]

/-- What a run is once a response to a line was to be written. -/
def wrote (sink : Sink) (response : Option Response) (initialized : Bool) : Run :=
  match sink.answer response with
  | (sink, true) => ⟨sink, initialized, none⟩
  | (sink, false) => ⟨sink, initialized, some fullMessage⟩

/-- A line of text is answered, and then the rest is served. -/
theorem serveLines_text (spelled : Text.ofOctets? bytes = some line)
    (filled : Text.isAllBlank line = false) (rest : List (List UInt8)) :
    serveLines s sink initialized (bytes :: rest) =
      respondTo s initialized line >>= fun answer =>
        s.resume rest (wrote sink answer.1 answer.2) := by
  rw [serveLines, spelled]
  dsimp only
  rw [filled, if_neg (by decide)]
  refine bind_congr fun answer => ?_
  obtain ⟨response, initialized⟩ := answer
  cases response with
  | none => rfl
  | some response =>
    rw [wrote, Sink.answer]
    dsimp only
    obtain ⟨sink, room⟩ := sink.writeResponse response
    cases room <;> rfl

theorem resume_nil (run : Run) : s.resume [] run = pure run := by
  obtain ⟨sink, initialized, failure⟩ := run
  cases failure <;> rfl

/-- One line that is answered. -/
theorem serveLines_one (spelled : Text.ofOctets? bytes = some line)
    (filled : Text.isAllBlank line = false) :
    serveLines s sink initialized [bytes] =
      (fun answer => wrote sink answer.1 answer.2) <$> respondTo s initialized line := by
  simp only [serveLines_text s sink initialized spelled filled, resume_nil, map_eq_pure_bind]

/-- A line is no text, or blank, or is answered. -/
theorem line_cases (bytes : List UInt8) :
    Text.ofOctets? bytes = none ∨
    (∃ line, Text.ofOctets? bytes = some line ∧ Text.isAllBlank line) ∨
    ∃ line, Text.ofOctets? bytes = some line ∧ Text.isAllBlank line = false := by
  cases spelled : Text.ofOctets? bytes with
  | none => exact .inl rfl
  | some line =>
    cases blank : Text.isAllBlank line with
    | true => exact .inr (.inl ⟨line, rfl, blank⟩)
    | false => exact .inr (.inr ⟨line, rfl, blank⟩)

/-! ### Several lines -/

/-- A run over lines goes on with further lines. -/
theorem serveLines_append (before after : List (List UInt8)) :
    serveLines s sink initialized (before ++ after) =
      serveLines s sink initialized before >>= s.resume after := by
  induction before generalizing sink initialized with
  | nil => exact (pure_bind (Run.mk sink initialized none) (s.resume after)).symm
  | cons bytes before ih =>
    rw [List.cons_append]
    rcases line_cases bytes with unreadable | ⟨line, spelled, blank⟩ | ⟨line, spelled, filled⟩
    · rw [serveLines_unreadable s sink initialized unreadable,
        serveLines_unreadable s sink initialized unreadable, pure_bind]
      rfl
    · rw [serveLines_blank s sink initialized spelled blank,
        serveLines_blank s sink initialized spelled blank, ih]
    · rw [serveLines_text s sink initialized spelled filled,
        serveLines_text s sink initialized spelled filled, bind_assoc]
      refine bind_congr fun answer => ?_
      generalize wrote sink answer.1 answer.2 = run
      rw [resume, resume]
      cases failed : run.failure with
      | none => exact ih _ _
      | some message =>
        rw [pure_bind, resume, failed]

/-- A run that began behind others: with pieces written before, and a client introduced or not. -/
def Run.begin (initialized : Bool) (below : List String) (run : Run) : Run :=
  ⟨run.sink.onto below, initialized || run.initialized, run.failure⟩

/-- Having introduced itself before, a client stays introduced. -/
theorem respondTo_initialized (line : String) :
    respondTo s initialized line =
      (fun answer => (answer.1, initialized || answer.2)) <$> respondTo s false line := by
  simp only [respondTo, map_bind]
  refine bind_congr fun parsed => ?_
  cases parsed with
  | error response => simp
  | ok request => simp

/-- A beginning changes nothing about how an answer is written. -/
theorem wrote_begin (below : List String) (response : Option Response) (introduced : Bool) :
    wrote (sink.onto below) response (initialized || introduced) =
      (wrote sink response introduced).begin initialized below := by
  rw [wrote, wrote, Sink.answer_onto]
  obtain ⟨sink, room⟩ := sink.answer response
  cases room <;> rfl

/-- Two beginnings are one. -/
theorem Run.begin_begin (run : Run) (introduced : Bool) (below : List String) :
    (run.begin introduced []).begin initialized below =
      run.begin (initialized || introduced) below := by
  simp [Run.begin, Bool.or_assoc]

/-- What was written before a run stays, what follows is the same, and whether a client has
introduced itself has no influence on anything else. -/
theorem serveLines_begin (below : List String) (lines : List (List UInt8)) :
    serveLines s (sink.onto below) initialized lines =
      Run.begin initialized below <$> serveLines s sink false lines := by
  induction lines generalizing sink initialized below with
  | nil => simp [Run.begin]
  | cons bytes lines ih =>
    rcases line_cases bytes with unreadable | ⟨line, spelled, blank⟩ | ⟨line, spelled, filled⟩
    · rw [serveLines_unreadable s _ _ unreadable, serveLines_unreadable s _ _ unreadable, map_pure]
      simp [Run.begin]
    · rw [serveLines_blank s _ _ spelled blank, serveLines_blank s _ _ spelled blank, ih]
    · rw [serveLines_text s _ _ spelled filled, serveLines_text s _ _ spelled filled,
        respondTo_initialized, bind_map_left, map_bind]
      refine bind_congr fun answer => ?_
      rw [wrote_begin]
      generalize wrote sink answer.1 answer.2 = run
      rw [resume, resume, Run.begin]
      cases failed : run.failure with
      | some message => simp [Run.begin, failed]
      | none =>
        dsimp only
        have fresh := ih run.sink run.initialized []
        rw [Sink.onto_nil] at fresh
        rw [ih, fresh, ← comp_map]
        exact congrArg (· <$> _) (funext fun run' =>
          (Run.begin_begin initialized run' run.initialized below).symm)

/-- A run that does what two others do, one after the other. -/
structure Joins (first second whole : Traced Run) : Prop where
  written : whole.value.sink.written = first.value.sink.written ++ second.value.sink.written
  calls : whole.calls = first.calls ++ second.calls
  initialized : whole.value.initialized = (first.value.initialized || second.value.initialized)
  failure : whole.value.failure = second.value.failure

/-- What comes behind lines that were served is served as by a server that has seen nothing, with
the writer as it is by then. -/
theorem serveLines_joins {before : List (List UInt8)}
    (served : (serveLines s sink initialized before).value.failure = none)
    (after : List (List UInt8)) :
    Joins (serveLines s sink initialized before)
      (serveLines s ⟨(serveLines s sink initialized before).value.sink.room, []⟩ false after)
      (serveLines s sink initialized (before ++ after)) := by
  have goesOn := serveLines_append s sink initialized before after
  generalize serveLines s sink initialized before = first at goesOn served ⊢
  have fresh := serveLines_begin s ⟨first.value.sink.room, []⟩ first.value.initialized
    first.value.sink.pieces after
  have begins : (Sink.mk first.value.sink.room []).onto first.value.sink.pieces =
      first.value.sink := rfl
  rw [begins] at fresh
  have rest : s.resume after first.value =
      Run.begin first.value.initialized first.value.sink.pieces <$>
        serveLines s ⟨first.value.sink.room, []⟩ false after := by
    rw [resume, served, ← fresh]
  constructor
  · rw [goesOn, Traced.value_bind, rest]
    exact Sink.written_onto _ _ _
  · rw [goesOn, Traced.calls_bind, rest, Traced.calls_map]
  · rw [goesOn, Traced.value_bind, rest]
    rfl
  · rw [goesOn, Traced.value_bind, rest]
    rfl

/-! ### A writer without limit -/

/-- The pieces that are written for a response, the latest first. -/
def answerPieces : Option Response → List String
  | none => []
  | some r => ["\n", Json.compact r.toJson]

theorem written_answerPieces (response : Option Response) :
    (Sink.mk none (answerPieces response)).written = answerLine response := by
  cases response <;> simp [answerPieces, answerLine, Sink.written, String.join_cons]

variable (pieces : List String)

/-- A writer without a limit takes the whole answer. -/
theorem wrote_unlimited (response : Option Response) :
    wrote ⟨none, pieces⟩ response initialized =
      ⟨⟨none, answerPieces response ++ pieces⟩, initialized, none⟩ := by
  cases response <;> rfl

/-- A line of text is answered to a writer without a limit, and then the rest is served. -/
theorem serveLines_unlimited (spelled : Text.ofOctets? bytes = some line)
    (filled : Text.isAllBlank line = false) (rest : List (List UInt8)) :
    serveLines s ⟨none, pieces⟩ initialized (bytes :: rest) =
      respondTo s initialized line >>= fun answer =>
        serveLines s ⟨none, answerPieces answer.1 ++ pieces⟩ answer.2 rest := by
  simp only [serveLines_text s _ initialized spelled filled, wrote_unlimited, resume]

/-- A writer without a limit stays so. -/
theorem room_of_unlimited (lines : List (List UInt8)) :
    (serveLines s ⟨none, pieces⟩ initialized lines).value.sink.room = none := by
  induction lines generalizing initialized pieces with
  | nil => rfl
  | cons bytes lines ih =>
    rcases line_cases bytes with unreadable | ⟨line, spelled, blank⟩ | ⟨line, spelled, filled⟩
    · rw [serveLines_unreadable s _ initialized unreadable, Traced.value_pure]
    · rw [serveLines_blank s _ initialized spelled blank, ih]
    · rw [serveLines_unlimited s initialized pieces spelled filled, Traced.value_bind, ih]

/-- With a writer that is never full, a run fails at a line that is no text and only there. -/
theorem failure_of_unlimited (lines : List (List UInt8)) :
    (serveLines s ⟨none, pieces⟩ initialized lines).value.failure =
      if ∀ bytes ∈ lines, Text.ofOctets? bytes ≠ none then none else some unreadableMessage := by
  induction lines generalizing initialized pieces with
  | nil => simp
  | cons bytes lines ih =>
    rcases line_cases bytes with unreadable | ⟨line, spelled, blank⟩ | ⟨line, spelled, filled⟩
    · simp [serveLines_unreadable s _ initialized unreadable, unreadable]
    · simp [serveLines_blank s _ initialized spelled blank, ih, spelled]
    · simp [serveLines_unlimited s initialized pieces spelled filled, ih, spelled]

end Lines

/-! ### Text -/

/-- A text as a line of a stream. -/
def lineOf (text : String) : List UInt8 := Text.octets text ++ [10]

theorem linesOf_lineOf {text : String} (unbroken : 10 ∉ Text.octets text)
    (other : (Text.octets text).getLast? ≠ some 13) : linesOf (lineOf text) = [Text.octets text] := by
  rw [lineOf, linesOf_cons unbroken, dropReturn_of_ne other, linesOf_nil]

/-- A server without tables. -/
def bareServer : Server where
  config := .usual
  gateway :=
    { files := default
      engine := ⟨none, fun _ _ => none, fun _ _ => .table [] .done, fun _ => none⟩
      catalog := ⟨Files.Path.ofString "data", .directoryScan, ⟨[], List.Pairwise.nil⟩⟩ }

/-- A client asks whether the server is there. -/
def ping : String := "\x7b\"jsonrpc\":\"2.0\",\"id\":1,\"method\":\"ping\"\x7d"

/-- The server is there. -/
def pong : String := "\x7b\"jsonrpc\":\"2.0\",\"id\":1,\"result\":\x7b\x7d\x7d\n"

theorem linesOf_ping : linesOf (lineOf ping) = [Text.octets ping] :=
  linesOf_lineOf (by decide) (by decide)

theorem written_ping :
    (serveLines bareServer ⟨none, []⟩ false [Text.octets ping]).value.sink.written = pong := by
  have answer : answerLine (respondTo bareServer false ping).value.1 = pong := by decide +kernel
  rw [serveLines_one _ _ _ (Text.ofOctets?_octets ping) (by decide), Traced.value_map,
    wrote_unlimited, List.append_nil, written_answerPieces, answer]

end DataShelf.Server
