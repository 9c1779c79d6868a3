import DataShelf.Proofs.Framing
import DataShelf.Proofs.ToolCalls

/-!
# A writer that is full

A run whose output fits is the same with a writer that takes no more than that (`serveLines_within`).
Where the output does not fit there is a first line whose response was not written as a whole, and the
run ends there: it has asked the engine for all that the lines up to that one ask for, and for nothing
else (`serveLines_cut`). What it asks for are whole sessions (`sessions_serveLines`), so a run with a
writer that is limited does and writes a beginning of what it would without the limit
(`serve_with_limit`).
-/

namespace DataShelf.Server
set_option autoImplicit false

open Engine (Call)
open Rpc (Response)

/-! ### Sessions -/

/-- The calls of a session from its opening to its end. -/
inductive WholeSession : List Call → Prop
  | refused : WholeSession [.open false]
  | closed {batches : List Call} (views : ∀ c ∈ batches, ∃ sql made, c = .batch sql made)
    (sql : String) (prepared : Bool) :
    WholeSession (.open true :: batches ++ [.query sql prepared, .close true])
  | dropped {batches : List Call} (views : ∀ c ∈ batches, ∃ sql made, c = .batch sql made)
    (sql : String) (prepared : Bool) :
    WholeSession (.open true :: batches ++ [.query sql prepared, .close false, .drop])

/-- Sessions, one after the other. -/
def WholeSessions (calls : List Call) : Prop :=
  ∃ sessions, calls = List.flatten sessions ∧ ∀ session ∈ sessions, WholeSession session

theorem WholeSession.sessions {calls : List Call} (whole : WholeSession calls) :
    WholeSessions calls :=
  ⟨[calls], by simp, by simpa using whole⟩

theorem WholeSessions.nil : WholeSessions [] := ⟨[], rfl, nofun⟩

theorem WholeSessions.append {calls calls' : List Call} (first : WholeSessions calls)
    (second : WholeSessions calls') : WholeSessions (calls ++ calls') := by
  obtain ⟨sessions, rfl, whole⟩ := first
  obtain ⟨sessions', rfl, whole'⟩ := second
  refine ⟨sessions ++ sessions', List.flatten_append.symm, fun session member => ?_⟩
  exact (List.mem_append.1 member).elim (whole session) (whole' session)

/-- A query is a session. -/
theorem wholeSession_runQuery (g : Query.Gateway) (sql : String) :
    WholeSession (g.runQuery sql).calls := by
  cases failed : g.engine.openFailure with
  | some message =>
    rw [(Query.runQuery_of_failure g sql failed).1]
    exact .refused
  | none =>
    have views : ∀ c ∈ Query.batchCalls g.engine (Query.registrations g.files g.catalog.tables),
        ∃ sql made, c = .batch sql made := by
      intro c member
      obtain ⟨statement, -, rfl⟩ := List.mem_map.1 member
      exact ⟨_, _, rfl⟩
    rw [(Query.runQuery_of_success g sql failed).1, Query.closingCalls]
    split
    · exact .closed views _ _
    · exact .dropped views _ _

section Serving

variable (s : Server)

theorem sessions_handle (request : Rpc.Request) : WholeSessions (s.handle request).calls := by
  rcases calls_handle_cases s request with nothing | ⟨query, same⟩
  · exact nothing ▸ .nil
  · exact same ▸ (wholeSession_runQuery s.gateway query).sessions

theorem sessions_respondTo (initialized : Bool) (line : String) :
    WholeSessions (respondTo s initialized line).calls := by
  rw [calls_respondTo]
  cases (parseLine line).value with
  | error response => exact .nil
  | ok request => exact sessions_handle s request

/-- However a run ends, no session is left open. -/
theorem sessions_serveLines (sink : Sink) (initialized : Bool) (lines : List (List UInt8)) :
    WholeSessions (serveLines s sink initialized lines).calls := by
  induction lines generalizing sink initialized with
  | nil => exact .nil
  | cons bytes lines ih =>
    rcases line_cases bytes with unreadable | ⟨line, spelled, blank⟩ | ⟨line, spelled, filled⟩
    · rw [serveLines_unreadable s sink initialized unreadable, Traced.calls_pure]
      exact .nil
    · rw [serveLines_blank s sink initialized spelled blank]
      exact ih sink initialized
    · rw [serveLines_text s sink initialized spelled filled, Traced.calls_bind]
      refine (sessions_respondTo s initialized line).append ?_
      unfold resume
      split
      · exact ih _ _
      · exact .nil

end Serving

/-! ### Writing within a limit -/

/-- How many octets there are in pieces that were written. -/
def octetsIn (pieces : List String) : Nat := (Sink.mk none pieces).written.utf8ByteSize

/-- A writer that takes a number of octets in all, behind pieces that were written. -/
def Sink.within (limit : Nat) (pieces : List String) : Sink := ⟨some (limit - octetsIn pieces), pieces⟩

/-- A run with such a writer. -/
def Run.within (limit : Nat) (run : Run) : Run := { run with sink := .within limit run.sink.pieces }

theorem octetsIn_cons (piece : String) (pieces : List String) :
    octetsIn (piece :: pieces) = octetsIn pieces + piece.utf8ByteSize := by
  simp [octetsIn, Sink.written, String.join_append, String.join_cons]

section Within

variable {limit : Nat} {pieces : List String}

/-- A piece is written as a whole if there is room for it, or else left out. -/
theorem write?_within (held : octetsIn pieces ≤ limit) (piece : String) :
    (Sink.within limit pieces).write? piece =
      if octetsIn (piece :: pieces) ≤ limit then some (.within limit (piece :: pieces))
      else none := by
  rw [Sink.write?, Sink.within, Sink.within]
  dsimp only
  rw [octetsIn_cons]
  by_cases fits : octetsIn pieces + piece.utf8ByteSize ≤ limit
  · rw [if_pos fits, if_neg (by omega), Nat.sub_sub]
  · rw [if_neg fits, if_pos (by omega)]

/-- A response that fits is written. -/
theorem wrote_within {response : Option Response}
    (fits : octetsIn (answerPieces response ++ pieces) ≤ limit) (initialized : Bool) :
    wrote (.within limit pieces) response initialized =
      (wrote ⟨none, pieces⟩ response initialized).within limit := by
  cases response with
  | none => rfl
  | some r =>
    have line : octetsIn ("\n" :: Json.compact r.toJson :: pieces) ≤ limit := fits
    have text := octetsIn_cons "\n" (Json.compact r.toJson :: pieces)
    have held := octetsIn_cons (Json.compact r.toJson) pieces
    simp only [wrote, Sink.answer, Sink.writeResponse, write?_within (by omega : octetsIn pieces ≤ limit),
      if_pos (by omega : octetsIn (Json.compact r.toJson :: pieces) ≤ limit),
      write?_within (by omega : octetsIn (Json.compact r.toJson :: pieces) ≤ limit), if_pos line]
    rfl

/-- What is written of a response that does not fit: without the end of its line it may. -/
def cutText (limit : Nat) (pieces : List String) (text : String) : String :=
  if octetsIn (text :: pieces) ≤ limit then text else ""

/-- A response that does not fit ends a run. -/
theorem wrote_beyond (held : octetsIn pieces ≤ limit) {response : Option Response}
    (beyond : limit < octetsIn (answerPieces response ++ pieces)) (initialized : Bool) :
    ∃ r, response = some r ∧
      (wrote (.within limit pieces) response initialized).failure = some fullMessage ∧
      (wrote (.within limit pieces) response initialized).sink.written =
        (Sink.mk none pieces).written ++ cutText limit pieces (Json.compact r.toJson) := by
  cases response with
  | none => exact absurd held (Nat.not_le.2 beyond)
  | some r =>
    have line : ¬octetsIn ("\n" :: Json.compact r.toJson :: pieces) ≤ limit := Nat.not_le.2 beyond
    refine ⟨r, rfl, ?_⟩
    simp only [wrote, Sink.answer, Sink.writeResponse, write?_within held, cutText]
    by_cases text : octetsIn (Json.compact r.toJson :: pieces) ≤ limit
    · simp only [if_pos text, write?_within text, if_neg line]
      refine ⟨trivial, ?_⟩
      simp [Sink.within, Sink.written, String.join_append, String.join_cons]
    · simp only [if_neg text]
      exact ⟨trivial, String.append_empty.symm⟩

end Within

section Runs

variable (s : Server) {limit : Nat}

/-- What was written stays. -/
theorem written_serveLines (sink : Sink) (initialized : Bool) (lines : List (List UInt8)) :
    ∃ more, (serveLines s sink initialized lines).value.sink.written = sink.written ++ more := by
  have begun := serveLines_begin s ⟨sink.room, []⟩ initialized sink.pieces lines
  have same : (Sink.mk sink.room []).onto sink.pieces = sink := rfl
  rw [same] at begun
  rw [begun, Traced.value_map]
  exact ⟨_, Sink.written_onto _ _ sink.room⟩

/-- A run whose output fits is the same with a writer that takes no more. -/
theorem serveLines_within (pieces : List String) (initialized : Bool) (lines : List (List UInt8))
    (fits : (serveLines s ⟨none, pieces⟩ initialized lines).value.sink.written.utf8ByteSize ≤ limit) :
    serveLines s (.within limit pieces) initialized lines =
      Run.within limit <$> serveLines s ⟨none, pieces⟩ initialized lines := by
  induction lines generalizing pieces initialized with
  | nil => rfl
  | cons bytes lines ih =>
    rcases line_cases bytes with unreadable | ⟨line, spelled, blank⟩ | ⟨line, spelled, filled⟩
    · rw [serveLines_unreadable s _ _ unreadable, serveLines_unreadable s _ _ unreadable]
      rfl
    · rw [serveLines_blank s _ _ spelled blank] at fits ⊢
      rw [serveLines_blank s _ _ spelled blank]
      exact ih pieces initialized fits
    · rw [serveLines_unlimited s _ _ spelled filled] at fits ⊢
      rw [serveLines_text s _ _ spelled filled, map_bind]
      rw [Traced.value_bind] at fits
      -- What is written behind the response only adds to it, so the response fits as well.
      obtain ⟨more, written⟩ := written_serveLines s
        ⟨none, answerPieces (respondTo s initialized line).value.1 ++ pieces⟩
        (respondTo s initialized line).value.2 lines
      have here : octetsIn (answerPieces (respondTo s initialized line).value.1 ++ pieces) ≤ limit := by
        rw [written, String.utf8ByteSize_append] at fits
        exact Nat.le_trans (Nat.le_add_right _ _) fits
      apply Traced.bind_congr_value
      rw [wrote_within here, wrote_unlimited]
      exact ih _ _ fits

/-- A line with whose response the output does not fit is the last that is served. -/
theorem serveLines_beyond {pieces : List String} (held : octetsIn pieces ≤ limit)
    (initialized : Bool) (bytes : List UInt8) (after : List (List UInt8))
    (beyond : limit <
      (serveLines s ⟨none, pieces⟩ initialized [bytes]).value.sink.written.utf8ByteSize) :
    ∃ line response, Text.ofOctets? bytes = some line ∧ s.reply line = some response ∧
      (serveLines s ⟨none, pieces⟩ initialized [bytes]).value.sink.written =
        (Sink.mk none pieces).written ++ Json.compact response.toJson ++ "\n" ∧
      (serveLines s (.within limit pieces) initialized (bytes :: after)).value.sink.written =
        (Sink.mk none pieces).written ++ cutText limit pieces (Json.compact response.toJson) ∧
      (serveLines s (.within limit pieces) initialized (bytes :: after)).value.failure =
        some fullMessage ∧
      (serveLines s (.within limit pieces) initialized (bytes :: after)).calls =
        (serveLines s ⟨none, pieces⟩ initialized [bytes]).calls := by
  rcases line_cases bytes with unreadable | ⟨line, spelled, blank⟩ | ⟨line, spelled, filled⟩
  · rw [serveLines_unreadable s _ _ unreadable] at beyond
    exact absurd held (Nat.not_le.2 beyond)
  · rw [serveLines_blank s _ _ spelled blank] at beyond
    exact absurd held (Nat.not_le.2 beyond)
  · rw [serveLines_unlimited s _ _ spelled filled] at beyond ⊢
    rw [serveLines_text s _ _ spelled filled]
    simp only [Traced.value_bind, Traced.calls_bind, serveLines_nil, Traced.value_pure,
      Traced.calls_pure] at beyond ⊢
    obtain ⟨response, answered, failed, written⟩ :=
      wrote_beyond held beyond (respondTo s initialized line).value.2
    have ended : ∀ run : Run, run.failure = some fullMessage → s.resume after run = pure run := by
      intro run full
      rw [resume, full]
    rw [ended _ failed, Traced.value_pure, Traced.calls_pure]
    refine ⟨line, response, spelled, ?_, ?_, written, failed, rfl⟩
    · rw [← reply_of_respondTo s initialized, answered]
    · simp [answered, answerPieces, Sink.written, String.join_append, String.join_cons,
        String.append_assoc]

/-- A run with a writer that is never full. -/
def unlimited (initialized : Bool) (lines : List (List UInt8)) : Traced Run :=
  serveLines s ⟨none, []⟩ initialized lines

/-- The octets that such a run writes. -/
def outputSize (initialized : Bool) (lines : List (List UInt8)) : Nat :=
  (s.unlimited initialized lines).value.sink.written.utf8ByteSize

/-- A run goes on with further lines. -/
theorem unlimited_append (initialized : Bool) (first second : List (List UInt8)) :
    s.unlimited initialized (first ++ second) = s.unlimited initialized first >>= s.resume second :=
  serveLines_append s _ _ first second

/-- A run that writes more for further lines had not failed before them. -/
theorem served_of_grows {initialized : Bool} {first second : List (List UInt8)}
    (grows : s.outputSize initialized first < s.outputSize initialized (first ++ second)) :
    (s.unlimited initialized first).value.failure = none := by
  cases failed : (s.unlimited initialized first).value.failure with
  | none => rfl
  | some message =>
    have same : s.outputSize initialized (first ++ second) = s.outputSize initialized first := by
      rw [outputSize, unlimited_append, Traced.value_bind, resume, failed]
      rfl
    exact absurd grows (same ▸ Nat.lt_irrefl _)

/-- What further lines add to a run that has not failed. -/
theorem resume_unlimited {initialized : Bool} {first : List (List UInt8)}
    (served : (s.unlimited initialized first).value.failure = none)
    (second : List (List UInt8)) :
    s.resume second (s.unlimited initialized first).value =
      serveLines s ⟨none, (s.unlimited initialized first).value.sink.pieces⟩
        (s.unlimited initialized first).value.initialized second := by
  have room : (s.unlimited initialized first).value.sink.room = none :=
    room_of_unlimited s initialized [] first
  rw [resume, served, ← room]

/-- A run that a limit ends at the response to a line. What is before the line fits; of the response
as much is written as fits, its text as a whole or nothing, and the engine was asked for all that the
lines ask for up to this one. -/
structure CutAt (initialized : Bool) (limit : Nat) (before : List (List UInt8)) (bytes : List UInt8)
    (line : String) (response : Response) (run : Traced Run) : Prop where
  served : (s.unlimited initialized before).value.failure = none
  fits : s.outputSize initialized before ≤ limit
  beyond : limit < s.outputSize initialized (before ++ [bytes])
  spelled : Text.ofOctets? bytes = some line
  answered : s.reply line = some response
  reached : (s.unlimited initialized (before ++ [bytes])).value.sink.written =
    (s.unlimited initialized before).value.sink.written ++ Json.compact response.toJson ++ "\n"
  written : run.value.sink.written = (s.unlimited initialized before).value.sink.written ++
    if s.outputSize initialized before + (Json.compact response.toJson).utf8ByteSize ≤ limit
    then Json.compact response.toJson else ""
  calls : run.calls = (s.unlimited initialized (before ++ [bytes])).calls
  failure : run.value.failure = some fullMessage

/-- Where outputs grow beyond a limit, there is a first line with which they do. -/
theorem exists_first_beyond {initialized : Bool} {lines : List (List UInt8)}
    (beyond : limit < s.outputSize initialized lines) :
    ∃ before bytes after, lines = before ++ bytes :: after ∧
      s.outputSize initialized before ≤ limit ∧
      limit < s.outputSize initialized (before ++ [bytes]) := by
  induction lines using List.reverseRecOn with
  | nil => exact absurd beyond (Nat.not_lt.2 (Nat.zero_le limit))
  | append_singleton lines bytes ih =>
    by_cases fits : s.outputSize initialized lines ≤ limit
    · exact ⟨lines, bytes, [], rfl, fits, beyond⟩
    · obtain ⟨before, first, after, rfl, fits, beyond⟩ := ih (Nat.not_le.1 fits)
      exact ⟨before, first, after ++ [bytes], by simp, fits, beyond⟩

/-- A run whose output does not fit ends at the first response with which it does not. -/
theorem serveLines_cut {initialized : Bool} {before : List (List UInt8)} {bytes : List UInt8}
    (fits : s.outputSize initialized before ≤ limit)
    (beyond : limit < s.outputSize initialized (before ++ [bytes]))
    (after : List (List UInt8)) :
    ∃ line response, s.CutAt initialized limit before bytes line response
      (serveLines s ⟨some limit, []⟩ initialized (before ++ bytes :: after)) := by
  have limited : serveLines s ⟨some limit, []⟩ initialized (before ++ bytes :: after) =
      s.unlimited initialized before >>= fun run => s.resume (bytes :: after) (run.within limit) := by
    rw [← bind_map_left]
    exact (serveLines_append s _ _ before _).trans
      (congrArg (· >>= _) (serveLines_within s [] initialized before fits))
  have whole := s.unlimited_append initialized before [bytes]
  have served := s.served_of_grows (Nat.lt_of_le_of_lt fits beyond)
  have more := s.resume_unlimited served [bytes]
  have rest : s.resume (bytes :: after) ((s.unlimited initialized before).value.within limit) =
      serveLines s (.within limit (s.unlimited initialized before).value.sink.pieces)
        (s.unlimited initialized before).value.initialized (bytes :: after) := by
    rw [resume, Run.within, served]
  have held : octetsIn (s.unlimited initialized before).value.sink.pieces ≤ limit := fits
  have full := beyond
  rw [outputSize, whole, Traced.value_bind, more] at full
  obtain ⟨line, response, spelled, answered, reached, written, failed, calls⟩ :=
    serveLines_beyond s held (s.unlimited initialized before).value.initialized bytes after full
  refine ⟨line, response, served, fits, beyond, spelled, answered, ?_, ?_, ?_, ?_⟩
  · rw [whole, Traced.value_bind, more, reached]
    rfl
  · rw [limited, Traced.value_bind, rest, written, cutText, octetsIn_cons]
    rfl
  · rw [limited, whole, Traced.calls_bind, Traced.calls_bind, rest, more, calls]
  · rw [limited, Traced.value_bind, rest, failed]

/-- Further lines only add to what a run has done. -/
theorem unlimited_begins (initialized : Bool) (first second : List (List UInt8)) :
    (s.unlimited initialized first).calls <+: (s.unlimited initialized (first ++ second)).calls ∧
    ∃ more, (s.unlimited initialized (first ++ second)).value.sink.written =
      (s.unlimited initialized first).value.sink.written ++ more := by
  rw [unlimited_append]
  constructor
  · rw [Traced.calls_bind]
    exact List.prefix_append _ _
  · rw [Traced.value_bind, resume]
    cases (s.unlimited initialized first).value.failure with
    | none => exact written_serveLines s _ _ second
    | some message => exact ⟨"", String.append_empty.symm⟩

variable {s} in
/-- What a limit leaves of a run. -/
theorem CutAt.size_le {initialized : Bool} {before : List (List UInt8)} {bytes : List UInt8}
    {line : String} {response : Response} {run : Traced Run}
    (cut : s.CutAt initialized limit before bytes line response run) :
    run.value.sink.written.utf8ByteSize ≤ limit := by
  have held : (s.unlimited initialized before).value.sink.written.utf8ByteSize ≤ limit := cut.fits
  rw [cut.written, String.utf8ByteSize_append]
  split
  · next fits => exact fits
  · exact held

variable {s} in
theorem CutAt.append_eq {initialized : Bool} {before : List (List UInt8)} {bytes : List UInt8}
    {line : String} {response : Response} {run : Traced Run}
    (cut : s.CutAt initialized limit before bytes line response run) :
    ∃ rest, run.value.sink.written ++ rest =
      (s.unlimited initialized (before ++ [bytes])).value.sink.written := by
  rw [cut.written, cut.reached]
  split
  · exact ⟨"\n", rfl⟩
  · exact ⟨Json.compact response.toJson ++ "\n", by simp [String.append_assoc]⟩

end Runs

/-- **A full writer.** A run whose writer takes no more than a number of octets writes a beginning of
what it would write without that limit, and it asks the engine for a beginning of what it would ask
for, which is whole sessions. It fails if the run without the limit fails, or if the output of that
is too long, and only then. If the output fits, the run does the same; otherwise it ends at the first
response with which the output does not fit. -/
theorem serve_with_limit (s : Server) (limit : Nat) (initialized : Bool) (input : List UInt8) :
    let whole := serve s none initialized input
    let cut := serve s (some limit) initialized input
    let size := whole.value.sink.written.utf8ByteSize
    (∃ rest, cut.value.sink.written ++ rest = whole.value.sink.written) ∧
    cut.value.sink.written.utf8ByteSize ≤ limit ∧
    cut.calls <+: whole.calls ∧ WholeSessions cut.calls ∧
    (cut.value.failure.isSome ↔ whole.value.failure.isSome ∨ limit < size) ∧
    if size ≤ limit then
      cut.value.sink.written = whole.value.sink.written ∧
      cut.value.failure = whole.value.failure ∧ cut.calls = whole.calls
    else
      ∃ before bytes after line response, linesOf input = before ++ bytes :: after ∧
        s.CutAt initialized limit before bytes line response cut := by
  intro whole cut size
  have sessions : WholeSessions cut.calls := sessions_serveLines s _ _ _
  by_cases fits : size ≤ limit
  · have same : cut = Run.within limit <$> whole := serveLines_within s [] initialized _ fits
    have value : cut.value = whole.value.within limit := by rw [same, Traced.value_map]
    have written : cut.value.sink.written = whole.value.sink.written := by
      rw [value]
      rfl
    have failure : cut.value.failure = whole.value.failure := by
      rw [value]
      rfl
    have calls : cut.calls = whole.calls := by rw [same, Traced.calls_map]
    refine ⟨⟨"", ?_⟩, ?_, ?_, sessions, ?_, ?_⟩
    · rw [written, String.append_empty]
    · rw [written]
      exact fits
    · exact calls ▸ List.prefix_refl _
    · rw [failure, or_iff_left (Nat.not_lt.2 fits)]
    · rw [if_pos fits]
      exact ⟨written, failure, calls⟩
  · obtain ⟨before, bytes, after, lines, held, beyond⟩ :=
      exists_first_beyond s (Nat.not_le.1 fits)
    obtain ⟨line, response, ends⟩ := serveLines_cut s held beyond after
    rw [← lines] at ends
    change s.CutAt initialized limit before bytes line response cut at ends
    obtain ⟨calls, more, written⟩ := unlimited_begins s initialized (before ++ [bytes]) after
    rw [List.append_assoc, List.singleton_append, ← lines] at calls written
    obtain ⟨rest, reached⟩ := ends.append_eq
    refine ⟨⟨rest ++ more, ?_⟩, ends.size_le, ?_, sessions, ?_, ?_⟩
    · rw [← String.append_assoc]
      exact (congrArg (· ++ more) reached).trans written.symm
    · rw [ends.calls]
      exact calls
    · have failed : cut.value.failure = some fullMessage := ends.failure
      simp [failed, Nat.not_le.1 fits]
    · rw [if_neg fits]
      exact ⟨before, bytes, after, line, response, lines, ends⟩

/-- A line that is no text ends a run, also where there is room for more than was written. -/
theorem unreadable_line_within_limit :
    ¬((serve bareServer (some 100) false [0xFF, 10]).value.failure.isSome ↔
      100 < (serve bareServer none false [0xFF, 10]).value.sink.written.utf8ByteSize) := by
  have lines : linesOf [0xFF, 10] = [[0xFF]] := by
    have unbroken : (10 : UInt8) ∉ [(0xFF : UInt8)] := by decide
    exact (linesOf_cons unbroken []).trans (by rw [linesOf_nil]; rfl)
  have unreadable : Text.ofOctets? [0xFF] = none := by decide
  rw [serve, serve, lines, serveLines_unreadable _ _ _ unreadable,
    serveLines_unreadable _ _ _ unreadable]
  decide

end DataShelf.Server
