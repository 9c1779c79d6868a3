import DataShelf.Server.Handler
import DataShelf.Text.Blank

/-!
# Serving a stream of lines

Octets come in lines, each ended by a line feed, before which a carriage return does not count; the
last line may lack its end. Blank lines are passed over, every other line is answered at once by at
most one line. A line that is not text ends the service, and so does a writer that is full.
-/

namespace DataShelf.Server
set_option autoImplicit false

open Rpc (Response)

/-- Whether an octet ends a line. -/
def isLineFeed (b : UInt8) : Bool := b == 10

/-- A line without the carriage return at its end. -/
def dropReturn (line : List UInt8) : List UInt8 :=
  if line.getLast? == some 13 then line.dropLast else line

theorem length_dropWhile_le (p : UInt8 → Bool) (bytes : List UInt8) :
    (bytes.dropWhile p).length ≤ bytes.length :=
  (List.dropWhile_sublist p).length_le

/-- The lines of a stream of octets. -/
def linesOf (bytes : List UInt8) : List (List UInt8) :=
  let line := bytes.takeWhile fun b => !isLineFeed b
  match h : bytes.dropWhile fun b => !isLineFeed b with
  | _ :: behind =>
    have : behind.length < bytes.length := by
      have := length_dropWhile_le (fun b => !isLineFeed b) bytes
      rw [h, List.length_cons] at this
      omega
    dropReturn line :: linesOf behind
  | [] => if line.isEmpty then [] else [line]
termination_by bytes.length

/-- Where responses are written: how many octets it still takes, if that is limited, and what was
written, the latest piece first. -/
structure Sink where
  room : Option Nat
  pieces : List String
  deriving DecidableEq, Inhabited, Repr

namespace Sink

/-- What was written. -/
def written (s : Sink) : String := String.join s.pieces.reverse

/-- Writes a piece as a whole, or not at all if there is not enough room. -/
def write? (s : Sink) (piece : String) : Option Sink :=
  match s.room with
  | none => some { s with pieces := piece :: s.pieces }
  | some room =>
    if room < piece.utf8ByteSize then none
    else some ⟨some (room - piece.utf8ByteSize), piece :: s.pieces⟩

/-- Writes a response and the end of its line, as far as there is room. Answers also whether there
was. -/
def writeResponse (s : Sink) (r : Response) : Sink × Bool :=
  match s.write? (Json.compact r.toJson) with
  | none => (s, false)
  | some s =>
    match s.write? "\n" with
    | none => (s, false)
    | some s => (s, true)

end Sink

/-- How a service ended. -/
structure Run where
  sink : Sink
  initialized : Bool
  failure : Option String
  deriving DecidableEq, Inhabited, Repr

/-- What is said when a writer takes no more. -/
def fullMessage : String := "writer is full"

/-- What is said when a line is not text. -/
def unreadableMessage : String :=
  "Failed to read request line: " ++ Files.FileError.notText.message

/-- The response to a line that is not blank, if it gets one, and whether a client has introduced
itself by then. -/
def respondTo (s : Server) (initialized : Bool) (line : String) :
    Traced (Option Response × Bool) := do
  match ← parseLine line with
  | .error response => return (some response, initialized)
  | .ok request =>
    let response ← s.handle request
    return (response, initialized || introduces request)

/-- Serves lines, one after the other. -/
def serveLines (s : Server) : Sink → (initialized : Bool) → List (List UInt8) → Traced Run
  | sink, initialized, [] => return ⟨sink, initialized, none⟩
  | sink, initialized, bytes :: rest =>
    match Text.ofOctets? bytes with
    | none => return ⟨sink, initialized, some unreadableMessage⟩
    | some line =>
      if Text.isAllBlank line then serveLines s sink initialized rest
      else do
        let (response, initialized) ← respondTo s initialized line
        match response with
        | none => serveLines s sink initialized rest
        | some response =>
          match sink.writeResponse response with
          | (sink, true) => serveLines s sink initialized rest
          | (sink, false) => return ⟨sink, initialized, some fullMessage⟩

/-- Serves a stream of octets; `room` limits what can be written. -/
def serve (s : Server) (room : Option Nat) (initialized : Bool) (input : List UInt8) : Traced Run :=
  serveLines s ⟨room, []⟩ initialized (linesOf input)

end DataShelf.Server
