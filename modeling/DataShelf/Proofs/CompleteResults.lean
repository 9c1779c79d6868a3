import DataShelf.Proofs.CellValues
import DataShelf.Proofs.TextDecoding
import DataShelf.Query.Connection

/-!
# Results are complete or absent

An answer is read stage by stage: it is prepared and executed, and then each row is fetched and its
cells are read from left to right. There is a result exactly if no stage fails, and it has a name for
each column, a row for each row and a value for each cell; otherwise the error is that of the first
stage that fails (`query_complete_or_absent`).

Both loops are traversals of a list that end at the first failure (`mapM_eq_error_iff`): the rows are
traversed with the reading of one row (`readRows_eq`), the columns with the reading of one cell
(`readCells_eq`).
-/

namespace DataShelf.Engine
set_option autoImplicit false

/-- The rows that are fetched, in order. -/
def Rows.fetched : Rows → List (List Cell)
  | .done => []
  | .failed _ => []
  | .row cells rest => cells :: rest.fetched

/-- Why the fetch behind the last of these rows fails, if it does. -/
def Rows.fault? : Rows → Option String
  | .done => none
  | .failed message => some message
  | .row _ rest => rest.fault?

end DataShelf.Engine

namespace DataShelf.Query
set_option autoImplicit false

open Engine (Answer Cell Rows)

/-! ### Traversals -/

section Traversals

variable {ε α β : Type} {f : α → Except ε β} {l : List α}

/-- A traversal succeeds with what each step gives, in the order of the list. -/
theorem mapM_eq_ok_iff_getElem? {l' : List β} :
    l.mapM f = .ok l' ↔ l'.length = l.length ∧
      ∀ (i : Nat) (a : α), l[i]? = some a → ∃ b, l'[i]? = some b ∧ f a = .ok b := by
  rw [Json.mapM_eq_ok_iff, List.forall₂_iff_get]
  constructor
  · rintro ⟨length, each⟩
    refine ⟨length.symm, fun i a here => ?_⟩
    obtain ⟨within, rfl⟩ := List.getElem?_eq_some_iff.1 here
    exact ⟨_, List.getElem?_eq_getElem (length ▸ within), each i within (length ▸ within)⟩
  · rintro ⟨length, each⟩
    refine ⟨length.symm, fun i within within' => ?_⟩
    obtain ⟨b, there, step⟩ := each i l[i] (List.getElem?_eq_getElem within)
    obtain ⟨_, rfl⟩ := List.getElem?_eq_some_iff.1 there
    exact step

theorem mapM_cons_eq_error_iff {a : α} {e : ε} : (a :: l).mapM f = .error e ↔
    f a = .error e ∨ (∃ b, f a = .ok b) ∧ l.mapM f = .error e := by
  rw [List.mapM_cons]
  cases f a with
  | error e' => simp [bind, Except.bind]
  | ok b => cases l.mapM f <;> simp [bind, Except.bind, pure, Except.pure]

/-- A traversal fails with the first failure, in the order of the list. -/
theorem mapM_eq_error_iff {e : ε} :
    l.mapM f = .error e ↔ ∃ i : Nat, (∃ a, l[i]? = some a ∧ f a = .error e) ∧
      ∀ j < i, ∀ a, l[j]? = some a → ∃ b, f a = .ok b := by
  induction l with
  | nil => simp [pure, Except.pure]
  | cons a l ih =>
    rw [mapM_cons_eq_error_iff, ih]
    constructor
    · rintro (failed | ⟨⟨b, read⟩, i, failed, before⟩)
      · exact ⟨0, ⟨a, rfl, failed⟩, fun j below => absurd below (Nat.not_lt_zero j)⟩
      · refine ⟨i + 1, failed, fun j below a' at_j => ?_⟩
        cases j with
        | zero =>
          obtain rfl := Option.some.inj at_j
          exact ⟨b, read⟩
        | succ j => exact before j (Nat.lt_of_succ_lt_succ below) a' at_j
    · rintro ⟨i, ⟨a', at_i, failed⟩, before⟩
      cases i with
      | zero =>
        obtain rfl := Option.some.inj at_i
        exact .inl failed
      | succ i =>
        refine .inr ⟨before 0 (Nat.succ_pos i) a rfl, i, ⟨a', at_i, failed⟩, fun j below => ?_⟩
        exact before (j + 1) (Nat.succ_lt_succ below)

end Traversals

/-! ### Rows and cells -/

/-- What a row has in a column. -/
def readCell (cells : List Cell) (column : Nat) : Except String Value :=
  match cells[column]? with
  | some cell => Value.ofCell cell
  | none => .error ("Invalid column index: " ++ toString column)

theorem readCell_eq_ok_iff {cells : List Cell} {column : Nat} {value : Value} :
    readCell cells column = .ok value ↔
      ∃ cell, cells[column]? = some cell ∧ Holds cell value := by
  rw [readCell]
  cases cells[column]? <;> simp [ofCell_eq_ok_iff]

theorem readCell_eq_error_iff {cells : List Cell} {column : Nat} {message : String} :
    readCell cells column = .error message ↔
      cells[column]? = none ∧ message = "Invalid column index: " ++ toString column ∨
      cells[column]? = some (.unreadable message) := by
  rw [readCell]
  cases cells[column]? with
  | none => simp [eq_comm]
  | some cell => simp [ofCell_eq_error_iff]

/-- What a row is. -/
def readRow (columns : Nat) (cells : List Cell) : Except String Row :=
  ((List.range columns).mapM (readCell cells)).map .mk

/-- The loop over the cells reads the columns one after another. -/
theorem readCells_eq (columns index : Nat) (cells : List Cell) :
    readCells columns index (cells.drop index) =
      (List.range' index columns).mapM (readCell cells) := by
  induction columns generalizing index with
  | zero => rfl
  | succ columns ih =>
    rw [List.range'_succ, List.mapM_cons, readCell, ← ih]
    cases behind : cells.drop index with
    | nil =>
      rw [List.getElem?_eq_none (List.drop_eq_nil_iff.1 behind)]
      rfl
    | cons cell rest =>
      have here : cells[index]? = some cell := by
        rw [← List.head?_drop, behind, List.head?_cons]
      have next : rest = cells.drop (index + 1) := by
        rw [← List.tail_drop, behind, List.tail_cons]
      rw [here, next]
      rfl

/-- The loop over the rows reads them one after another, and fails behind them if the next fetch
does. -/
theorem readRows_eq (columns : Nat) (rows : Rows) :
    readRows columns rows = (do
      let read ← rows.fetched.mapM (readRow columns)
      match rows.fault? with
      | some message => .error message
      | none => .ok read) := by
  induction rows with
  | done => rfl
  | failed message => rfl
  | row cells rest ih =>
    have cellsRead : readCells columns 0 cells = (List.range columns).mapM (readCell cells) := by
      rw [List.range_eq_range', ← readCells_eq, List.drop_zero]
    rw [readRows, cellsRead, ih, Rows.fetched, Rows.fault?, List.mapM_cons, readRow]
    cases (List.range columns).mapM (readCell cells) with
    | error message => rfl
    | ok values =>
      cases rest.fetched.mapM (readRow columns) with
      | error message => rfl
      | ok read => cases rest.fault? <;> rfl

theorem getElem?_range_eq_some_iff {n i j : Nat} :
    (List.range n)[i]? = some j ↔ i < n ∧ i = j := by
  rw [List.getElem?_eq_some_iff]
  simp

/-- A row is read whole, the value of each column from the cell at its place. -/
theorem readRow_eq_ok_iff {columns : Nat} {cells : List Cell} {row : Row} :
    readRow columns cells = .ok row ↔ row.values.length = columns ∧
      ∀ c < columns, ∃ value, row.values[c]? = some value ∧ readCell cells c = .ok value := by
  have lifted : readRow columns cells = .ok row ↔
      (List.range columns).mapM (readCell cells) = .ok row.values := by
    obtain ⟨values⟩ := row
    rw [readRow, Json.map_eq_ok_iff]
    simp
  rw [lifted, mapM_eq_ok_iff_getElem?, List.length_range]
  refine and_congr_right fun _ => ⟨fun each c below => each c c ?_, fun each c c' here => ?_⟩
  · exact getElem?_range_eq_some_iff.2 ⟨below, rfl⟩
  · obtain ⟨below, rfl⟩ := getElem?_range_eq_some_iff.1 here
    exact each c below

/-- A row is not read because of its first cell that is not, with the message for that one. -/
theorem readRow_eq_error_iff {columns : Nat} {cells : List Cell} {message : String} :
    readRow columns cells = .error message ↔
      ∃ c < columns, readCell cells c = .error message ∧
        ∀ c' < c, ∃ value, readCell cells c' = .ok value := by
  have lifted : readRow columns cells = .error message ↔
      (List.range columns).mapM (readCell cells) = .error message := by
    rw [readRow]
    cases (List.range columns).mapM (readCell cells) <;> simp [Except.map]
  rw [lifted, mapM_eq_error_iff]
  constructor
  · rintro ⟨c, ⟨c', here, failed⟩, before⟩
    obtain ⟨below, rfl⟩ := getElem?_range_eq_some_iff.1 here
    refine ⟨c, below, failed, fun c' earlier => before c' earlier c' ?_⟩
    exact getElem?_range_eq_some_iff.2 ⟨Nat.lt_trans earlier below, rfl⟩
  · rintro ⟨c, below, failed, before⟩
    refine ⟨c, ⟨c, getElem?_range_eq_some_iff.2 ⟨below, rfl⟩, failed⟩, fun c' earlier c'' here => ?_⟩
    obtain ⟨-, rfl⟩ := getElem?_range_eq_some_iff.1 here
    exact before c' earlier

/-! ### Stages -/

/-- The stages of a query. -/
inductive Stage where
  | prepare
  | execute
  | fetch (row : Nat)
  | cell (row column : Nat)
  deriving DecidableEq, Repr

/-- Whether a stage comes before another: a query is prepared and executed, and a row is fetched and
its cells are read from left to right before the next row is fetched. -/
def Stage.Before : Stage → Stage → Prop
  | .prepare, stage => stage ≠ .prepare
  | .execute, .fetch _ => True
  | .execute, .cell _ _ => True
  | .fetch r, .fetch r' => r < r'
  | .fetch r, .cell r' _ => r ≤ r'
  | .cell r _, .fetch r' => r < r'
  | .cell r c, .cell r' c' => r < r' ∨ r = r' ∧ c < c'
  | _, _ => False

/-- A stage of an answer fails with a message. Rows are fetched up to one that cannot be, and those
that were fetched are asked for a cell in each column: it may be missing, or the engine fails to read
it. -/
inductive Fails : Answer → Stage → String → Prop
  | prepare {message : String} : Fails (.unprepared message) .prepare message
  | execute {message : String} : Fails (.failed message) .execute message
  | fetch {columns : List (Option String)} {rows : Rows} {r : Nat} {message : String}
      (behind : r = rows.fetched.length) (fault : rows.fault? = some message) :
      Fails (.table columns rows) (.fetch r) message
  | missing {columns : List (Option String)} {rows : Rows} {r c : Nat} {cells : List Cell}
      (row : rows.fetched[r]? = some cells) (column : c < columns.length)
      (absent : cells[c]? = none) :
      Fails (.table columns rows) (.cell r c) ("Invalid column index: " ++ toString c)
  | unreadable {columns : List (Option String)} {rows : Rows} {r c : Nat} {cells : List Cell}
      {message : String} (row : rows.fetched[r]? = some cells) (column : c < columns.length)
      (cell : cells[c]? = some (.unreadable message)) :
      Fails (.table columns rows) (.cell r c) message

/-- A result has all that was fetched: a name for each column, which is its position where the engine
has none, a row for each row, and at each place the value that the cell there holds. -/
structure Completes (columns : List (Option String)) (rows : List (List Cell))
    (result : Result) : Prop where
  width : result.columns.length = columns.length
  name : ∀ (i : Nat) (name? : Option String), columns[i]? = some name? →
    result.columns[i]? = some (name?.getD ("column" ++ toString i))
  height : result.rows.length = rows.length
  full : ∀ row ∈ result.rows, row.values.length = columns.length
  value : ∀ (r c : Nat) (cells : List Cell), rows[r]? = some cells → c < columns.length →
    ∃ cell row value, cells[c]? = some cell ∧ Holds cell value ∧
      result.rows[r]? = some row ∧ row.values[c]? = some value

theorem Stage.before_trichotomy (s s' : Stage) : s = s' ∨ s.Before s' ∨ s'.Before s := by
  cases s <;> cases s' <;> simp [Before]
  · omega
  · omega
  · omega
  · omega

/-- A cell fails if it is asked for and cannot be read. -/
theorem fails_cell_iff {columns : List (Option String)} {rows : Rows} {r c : Nat}
    {message : String} : Fails (.table columns rows) (.cell r c) message ↔
      ∃ cells, rows.fetched[r]? = some cells ∧ c < columns.length ∧
        readCell cells c = .error message := by
  constructor
  · intro failed
    cases failed with
    | missing row column absent =>
      exact ⟨_, row, column, readCell_eq_error_iff.2 (.inl ⟨absent, rfl⟩)⟩
    | unreadable row column cell => exact ⟨_, row, column, readCell_eq_error_iff.2 (.inr cell)⟩
  · rintro ⟨cells, row, column, unread⟩
    rcases readCell_eq_error_iff.1 unread with ⟨absent, rfl⟩ | cell
    · exact .missing row column absent
    · exact .unreadable row column cell

/-- A stage fails with one message. -/
theorem Fails.unique {answer : Answer} {stage : Stage} {m m' : String}
    (failed : Fails answer stage m) (failed' : Fails answer stage m') : m = m' := by
  cases stage with
  | prepare => cases failed; cases failed'; rfl
  | execute => cases failed; cases failed'; rfl
  | fetch r =>
    cases failed with
    | fetch _ fault =>
      cases failed' with
      | fetch _ fault' => exact Option.some.inj (fault.symm.trans fault')
  | cell r c =>
    cases answer with
    | unprepared message => cases failed
    | failed message => cases failed
    | table columns rows =>
      obtain ⟨cells, row, -, unread⟩ := fails_cell_iff.1 failed
      obtain ⟨cells', row', -, unread'⟩ := fails_cell_iff.1 failed'
      obtain rfl := Option.some.inj (row.symm.trans row')
      exact Except.error.inj (unread.symm.trans unread')

theorem getElem?_columnNames {columns : List (Option String)} {i : Nat} {name? : Option String}
    (here : columns[i]? = some name?) :
    (columnNames columns)[i]? = some (name?.getD ("column" ++ toString i)) := by
  simp [columnNames, here]

/-! ### Reading an answer -/

/-- No stage before this one fails. -/
def Reached (answer : Answer) (stage : Stage) : Prop :=
  ∀ earlier message, earlier.Before stage → ¬Fails answer earlier message

section Table

variable {columns : List (Option String)} {rows : Rows}

/-- A row with a cell that cannot be read is not read. -/
theorem Fails.row_unread {r c : Nat} {message : String}
    (failed : Fails (.table columns rows) (.cell r c) message) {cells : List Cell}
    (here : rows.fetched[r]? = some cells) (row : Row) : readRow columns.length cells ≠ .ok row := by
  intro read
  obtain ⟨cells', here', below, unread⟩ := fails_cell_iff.1 failed
  obtain rfl := Option.some.inj (here.symm.trans here')
  obtain ⟨value, -, readable⟩ := (readRow_eq_ok_iff.1 read).2 c below
  rw [unread] at readable
  cases readable

/-- The first cell that cannot be read in the first row that cannot. -/
theorem first_in_row {r : Nat} {cells : List Cell} {message : String}
    (here : rows.fetched[r]? = some cells) (failed : readRow columns.length cells = .error message)
    (before : ∀ r' < r, ∀ cells, rows.fetched[r']? = some cells →
      ∃ row, readRow columns.length cells = .ok row) :
    ∃ stage, Fails (.table columns rows) stage message ∧ Reached (.table columns rows) stage := by
  obtain ⟨c, below, unread, beside⟩ := readRow_eq_error_iff.1 failed
  refine ⟨.cell r c, fails_cell_iff.2 ⟨cells, here, below, unread⟩, ?_⟩
  rintro (_ | _ | r' | ⟨r', c'⟩) message' first fails
  · cases fails
  · cases fails
  · cases fails with
    | fetch behind _ =>
      have inside := (List.getElem?_eq_some_iff.1 here).1
      have earlier : r' ≤ r := first
      omega
  · obtain ⟨cells', here', -, unread'⟩ := fails_cell_iff.1 fails
    rcases first with above | ⟨rfl, left⟩
    · obtain ⟨row, read⟩ := before r' above cells' here'
      exact fails.row_unread here' row read
    · obtain rfl := Option.some.inj (here.symm.trans here')
      obtain ⟨value, readable⟩ := beside c' left
      rw [unread'] at readable
      cases readable

/-- The fetch behind rows that are all read. -/
theorem first_behind_rows {message : String} (fault : rows.fault? = some message)
    (each : ∀ (r : Nat) (cells : List Cell), rows.fetched[r]? = some cells →
      ∃ row, readRow columns.length cells = .ok row) :
    ∃ stage, Fails (.table columns rows) stage message ∧ Reached (.table columns rows) stage := by
  refine ⟨.fetch rows.fetched.length, .fetch rfl fault, ?_⟩
  rintro (_ | _ | r' | ⟨r', c'⟩) message' first fails
  · cases fails
  · cases fails
  · cases fails with
    | fetch behind _ =>
      have earlier : r' < rows.fetched.length := first
      omega
  · obtain ⟨cells, here, -, -⟩ := fails_cell_iff.1 fails
    obtain ⟨row, read⟩ := each r' cells here
    exact fails.row_unread here row read

/-- Where the rows are not read, a first stage fails. -/
theorem first_of_rows {message : String}
    (failed : readRows columns.length rows = .error message) :
    ∃ stage, Fails (.table columns rows) stage message ∧ Reached (.table columns rows) stage := by
  rw [readRows_eq] at failed
  cases traversed : rows.fetched.mapM (readRow columns.length) with
  | error message' =>
    rw [traversed] at failed
    obtain rfl := Except.error.inj failed
    obtain ⟨r, ⟨cells, here, unread⟩, before⟩ := mapM_eq_error_iff.1 traversed
    exact first_in_row here unread before
  | ok read =>
    rw [traversed] at failed
    cases fault : rows.fault? with
    | none => simp [fault, bind, Except.bind] at failed
    | some message' =>
      obtain rfl : message' = message := by simpa [fault, bind, Except.bind] using failed
      refine first_behind_rows fault fun r cells here => ?_
      obtain ⟨row, -, one⟩ := (mapM_eq_ok_iff_getElem?.1 traversed).2 r cells here
      exact ⟨row, one⟩

/-- Rows that are read have no stage that fails, and are complete. -/
theorem complete_of_rows {read : List Row} (taken : readRows columns.length rows = .ok read) :
    (∀ stage message, ¬Fails (.table columns rows) stage message) ∧
    Completes columns rows.fetched ⟨columnNames columns, read⟩ := by
  rw [readRows_eq] at taken
  obtain ⟨read', traversed, rest⟩ := Json.bind_eq_ok_iff.1 taken
  have sound : rows.fault? = none ∧ read' = read := by
    cases fault : rows.fault? with
    | none => simpa [fault] using rest
    | some message => simp [fault] at rest
  obtain ⟨noFault, rfl⟩ := sound
  obtain ⟨height, each⟩ := mapM_eq_ok_iff_getElem?.1 traversed
  constructor
  · intro stage message failed
    cases stage with
    | prepare => cases failed
    | execute => cases failed
    | fetch r =>
      cases failed with
      | fetch _ fault =>
        rw [noFault] at fault
        cases fault
    | cell r c =>
      obtain ⟨cells, here, -, -⟩ := fails_cell_iff.1 failed
      obtain ⟨row, -, one⟩ := each r cells here
      exact failed.row_unread here row one
  · refine ⟨by simp [columnNames], fun i name? => getElem?_columnNames, height, ?_, ?_⟩
    · intro row member
      obtain ⟨r, there⟩ := List.getElem?_of_mem member
      obtain ⟨within, -⟩ := List.getElem?_eq_some_iff.1 there
      obtain ⟨row', there', one⟩ := each r _ (List.getElem?_eq_getElem (height ▸ within))
      obtain rfl := Option.some.inj (there.symm.trans there')
      exact (readRow_eq_ok_iff.1 one).1
    · intro r c cells here below
      obtain ⟨row, there, one⟩ := each r cells here
      obtain ⟨value, placed, readable⟩ := (readRow_eq_ok_iff.1 one).2 c below
      obtain ⟨cell, found, held⟩ := readCell_eq_ok_iff.1 readable
      exact ⟨cell, row, value, found, held, there, placed⟩

end Table

/-- A failure to read an answer comes from a stage that was reached, with the message of that
stage. -/
theorem first_of_error {answer : Answer} {message : String}
    (failed : readAnswer answer = .error message) :
    ∃ stage, Fails answer stage message ∧ Reached answer stage := by
  cases answer with
  | unprepared message' =>
    obtain rfl := Except.error.inj failed
    refine ⟨.prepare, .prepare, fun earlier _ before fails => ?_⟩
    cases fails
    exact before rfl
  | failed message' =>
    obtain rfl := Except.error.inj failed
    refine ⟨.execute, .execute, fun earlier _ before fails => ?_⟩
    cases fails
    exact before
  | table columns rows =>
    refine first_of_rows ?_
    rw [readAnswer] at failed
    cases rowsRead : readRows columns.length rows with
    | error message' =>
      rw [rowsRead] at failed
      exact congrArg Except.error (Except.error.inj failed)
    | ok read => simp [rowsRead, Except.map] at failed

/-- An answer that is read has failed at no stage, and the result is complete. -/
theorem complete_of_ok {answer : Answer} {result : Result} (read : readAnswer answer = .ok result) :
    (∀ stage message, ¬Fails answer stage message) ∧
    ∃ columns rows, answer = .table columns rows ∧ Completes columns rows.fetched result := by
  cases answer with
  | unprepared message => cases read
  | failed message => cases read
  | table columns rows =>
    obtain ⟨rowsRead, taken, rfl⟩ := Json.map_eq_ok_iff.1 read
    obtain ⟨sound, complete⟩ := complete_of_rows taken
    exact ⟨sound, columns, rows, rfl, complete⟩

/-- Of two stages that fail and that no failure comes before, neither comes before the other. -/
theorem Reached.unique {answer : Answer} {s s' : Stage} {m m' : String}
    (reached : Reached answer s) (failed : Fails answer s m) (reached' : Reached answer s')
    (failed' : Fails answer s' m') : m = m' := by
  rcases Stage.before_trichotomy s s' with rfl | before | before
  · exact failed.unique failed'
  · exact absurd failed (reached' s m before)
  · exact absurd failed' (reached s' m' before)

/-- An answer is not read exactly if a stage was reached that fails, and then with its message. -/
theorem readAnswer_eq_error_iff {answer : Answer} {message : String} :
    readAnswer answer = .error message ↔
      ∃ stage, Fails answer stage message ∧ Reached answer stage := by
  constructor
  · exact first_of_error
  · rintro ⟨stage, failed, reached⟩
    cases read : readAnswer answer with
    | ok result => exact absurd failed ((complete_of_ok read).1 stage message)
    | error message' =>
      obtain ⟨stage', failed', reached'⟩ := first_of_error read
      rw [reached.unique failed reached' failed']

/-- An answer is a result exactly if no stage of it fails. -/
theorem exists_readAnswer_iff {answer : Answer} : (∃ result, readAnswer answer = .ok result) ↔
    ∀ stage message, ¬Fails answer stage message := by
  constructor
  · rintro ⟨result, read⟩
    exact (complete_of_ok read).1
  · intro sound
    cases read : readAnswer answer with
    | ok result => exact ⟨result, rfl⟩
    | error message =>
      obtain ⟨stage, failed, -⟩ := first_of_error read
      exact absurd failed (sound stage message)

/-- An error that is made of the message of an answer has that of the first stage that fails. -/
theorem exists_error_iff {α : Type} {answer : Answer} {into : String → α} {err : α} :
    (∃ message, readAnswer answer = .error message ∧ err = into message) ↔
      ∃ stage message, err = into message ∧ Fails answer stage message ∧ Reached answer stage := by
  simp only [readAnswer_eq_error_iff]
  constructor
  · rintro ⟨message, ⟨stage, fails, reached⟩, made⟩
    exact ⟨stage, message, made, fails, reached⟩
  · rintro ⟨stage, message, made, fails, reached⟩
    exact ⟨message, ⟨stage, fails, reached⟩, made⟩

/-- A query is called prepared unless that is the stage at which its answer fails. -/
theorem isPrepared_eq_false_iff {answer : Answer} :
    isPrepared answer = false ↔ ∃ message, Fails answer .prepare message := by
  cases answer with
  | unprepared message => exact ⟨fun _ => ⟨message, .prepare⟩, fun _ => rfl⟩
  | failed message =>
    refine iff_of_false (by simp [isPrepared]) ?_
    rintro ⟨message', failed⟩
    cases failed
  | table columns rows =>
    refine iff_of_false (by simp [isPrepared]) ?_
    rintro ⟨message', failed⟩
    cases failed

section Renamed

variable {ε ε' α : Type} {outcome : Except ε α} {f : ε → ε'}

theorem mapError_eq_ok_iff {a : α} : outcome.mapError f = .ok a ↔ outcome = .ok a := by
  cases outcome <;> simp [Except.mapError]

theorem mapError_eq_error_iff {err : ε'} :
    outcome.mapError f = .error err ↔ ∃ err', outcome = .error err' ∧ err = f err' := by
  cases outcome <;> simp [Except.mapError, eq_comm]

end Renamed

section Query

variable {e : Engine} {c : Connection} {sql : String}

theorem value_connection_query : (c.query e sql).value.1 =
    (readAnswer (e.query c.sent sql)).mapError ConnectionError.engine := rfl

/-- A result has all of the table that the engine answered with. -/
theorem completes_of_query {columns : List (Option String)} {rows : Rows} {result : Result}
    (answer : e.query c.sent sql = .table columns rows)
    (made : (c.query e sql).value.1 = .ok result) : Completes columns rows.fetched result := by
  rw [value_connection_query, mapError_eq_ok_iff] at made
  obtain ⟨-, columns', rows', answer', complete⟩ := complete_of_ok made
  obtain ⟨rfl, rfl⟩ := Engine.Answer.table.inj (answer.symm.trans answer')
  exact complete

end Query

/-- **Results are complete or absent.** A query has a result exactly if no stage of its answer fails.
The result then has a name for each column, a row for each row and a value for each cell in a
column, which is the one that the cell holds. Otherwise the error is that of the first stage that
fails. -/
theorem query_complete_or_absent (e : Engine) (c : Connection) (sql : String) :
    ((∃ result, (c.query e sql).value.1 = .ok result) ↔
      ∀ stage message, ¬Fails (e.query c.sent sql) stage message) ∧
    (∀ result, (c.query e sql).value.1 = .ok result →
      ∃ columns rows, e.query c.sent sql = .table columns rows ∧
        Completes columns rows.fetched result) ∧
    (∀ err, (c.query e sql).value.1 = .error err ↔
      ∃ stage message, err = .engine message ∧ Fails (e.query c.sent sql) stage message ∧
        Reached (e.query c.sent sql) stage) := by
  simp only [value_connection_query, mapError_eq_ok_iff, mapError_eq_error_iff]
  exact ⟨exists_readAnswer_iff, fun result read => (complete_of_ok read).2,
    fun err => exists_error_iff⟩

end DataShelf.Query
