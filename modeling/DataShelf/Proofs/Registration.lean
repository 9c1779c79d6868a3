import DataShelf.Proofs.Ownership
import DataShelf.Proofs.Trace

/-!
# Making the views of a catalog

What becomes of a table depends on the tables before it: one of them may own the view name, and the
engine may remember the statements that were sent for them (`fate`). `Made` says what a session
knows after some tables; one more table keeps it (`Made.addTable`), so it holds after all
(`register_all`): a table at a time, the session sends the statements of the owners, counts, and
gives one notice for each table that is left out.
-/

namespace DataShelf.Query
set_option autoImplicit false

open Catalog (Source Table viewName)
open Files (FileTree)
open Engine (Statement Call)

/-! ### Statements -/

/-- The statements that make the views of tables: one for each table that owns its view name, if the
statement can be built. -/
def registrations (t : FileTree) (tables : List Entry) : List String :=
  (owners tables).filterMap fun e => (viewStatement t e.1.name e.2).toOption

/-- The same statements as they stay with a connection. -/
def sentFor (t : FileTree) (tables : List Entry) : List Statement :=
  (registrations t tables).map .batch

/-- The calls that send batch statements one after another. The engine may remember those sent
before. -/
def batchCalls (e : Engine) (statements : List String) : List Call :=
  (splits [] statements).map fun s => .batch s.2 (e.batch (s.1.map .batch) s.2).isNone

theorem batchCalls_snoc (e : Engine) (statements : List String) (sql : String) :
    batchCalls e (statements ++ [sql]) = batchCalls e statements ++
      [.batch sql (e.batch (statements.map .batch) sql).isNone] := by
  simp [batchCalls, splits_snoc]

/-! ### What becomes of a table -/

/-- What becomes of a table when the views of a catalog are made. -/
inductive Fate where
  | taken (owner : Entry)
  | unbuilt (err : QueryError)
  | rejected (sql message : String)
  | registered (sql : String)

/-- The fate of a table, given the tables before it. -/
def fate (t : FileTree) (e : Engine) (before : List Entry) (entry : Entry) : Fate :=
  match before.find? fun x => viewOf x == viewOf entry with
  | some owner => .taken owner
  | none =>
    match viewStatement t entry.1.name entry.2 with
    | .error err => .unbuilt err
    | .ok sql =>
      match e.batch (sentFor t before) sql with
      | some message => .rejected sql message
      | none => .registered sql

namespace Fate

def isRegistered : Fate → Bool
  | .registered _ => true
  | _ => false

/-- The statement that is sent for a table, if one is. -/
def statement? : Fate → Option String
  | .rejected sql _ => some sql
  | .registered sql => some sql
  | _ => none

/-- The record of owners after a table. -/
def known (entry : Entry) (owners : Owners) : Fate → Owners
  | .taken _ => owners
  | _ => (viewOf entry, (entry.1.name, entry.2.name)) :: owners

/-- The notice that a table of its own view name is left out. -/
def skipNotice (entry : Entry) (err : QueryError) : Notice :=
  ⟨.warning, "Skipping view registration", [
    ("source", entry.1.name), ("table", entry.2.name),
    ("file", entry.2.dataFile.display), ("error", err.message)]⟩

/-- The notice that a table is left out, if it is. -/
def notice? (entry : Entry) : Fate → Option Notice
  | .taken owner => some ⟨.warning, "View name collision, keeping the first table", [
      ("view", viewOf entry), ("source", entry.1.name), ("table", entry.2.name),
      ("owner_source", owner.1.name), ("owner_table", owner.2.name)]⟩
  | .unbuilt err => some (skipNotice entry err)
  | .rejected _ message => some (skipNotice entry (.execution message))
  | .registered _ => none

end Fate

variable {t : FileTree} {e : Engine} {tables : List Entry} {state : Owners × Session}

/-- One more table adds the statement that is sent for it. -/
theorem registrations_snoc (t : FileTree) (e : Engine) (tables : List Entry) (entry : Entry) :
    registrations t (tables ++ [entry]) =
      registrations t tables ++ (fate t e tables entry).statement?.toList := by
  rw [registrations, owners_snoc, List.filterMap_append, registrations]
  congr 1
  fun_cases fate t e tables entry with
  | case1 owner found =>
    have taken : unlessTaken (tables, entry) = none := unlessTaken_eq_none_iff.2 ⟨owner, found⟩
    simp [taken, Fate.statement?]
  | case2 found err built | case3 found sql built | case4 found sql built =>
    have free : unlessTaken (tables, entry) = some entry := by
      rw [unlessTaken_eq_some_iff]
      simpa using found
    simp [free, built, Fate.statement?, Except.toOption]

/-! ### One table after another -/

/-- What a session and its record of owners have come to after some tables. -/
structure Made (t : FileTree) (e : Engine) (tables : List Entry) (state : Owners × Session) :
    Prop where
  owner : ∀ view, state.1.of? view =
    (tables.find? fun x => viewOf x == view).map fun x => (x.1.name, x.2.name)
  sent : state.2.connection.sent = sentFor t tables
  registered : state.2.registered =
    (splits [] tables).countP fun s => (fate t e s.1 s.2).isRegistered
  skipped : state.2.skipped =
    (splits [] tables).countP fun s => !(fate t e s.1 s.2).isRegistered

/-- A step of the registration, told by what becomes of the table. -/
theorem addTable_eq (h : Made t e tables state) (entry : Entry) :
    Session.addTable t e state entry =
      let known := (viewOf entry, (entry.1.name, entry.2.name)) :: state.1
      match fate t e tables entry with
      | .taken owner => do
        Session.tellCollision (viewOf entry) entry.1.name entry.2.name
          (owner.1.name, owner.2.name)
        return (state.1, { state.2 with skipped := state.2.skipped + 1 })
      | .unbuilt err => do
        Session.tellSkipped entry.1.name entry.2 err
        return (known, { state.2 with skipped := state.2.skipped + 1 })
      | .rejected sql message => do
        Traced.tell (.statement .batch sql)
        Traced.call (.batch sql false)
        Session.tellSkipped entry.1.name entry.2 (.execution message)
        return (known, ⟨⟨state.2.connection.sent ++ [.batch sql]⟩, state.2.registered,
          state.2.skipped + 1⟩)
      | .registered sql => do
        Traced.tell (.statement .batch sql)
        Traced.call (.batch sql true)
        return (known, ⟨⟨state.2.connection.sent ++ [.batch sql]⟩, state.2.registered + 1,
          state.2.skipped⟩) := by
  obtain ⟨owners, s⟩ := state
  have known := h.owner (viewOf entry)
  have sent := h.sent
  simp only [viewOf] at known sent
  simp only [Session.addTable]
  fun_cases fate t e tables entry with
  | case1 owner found =>
    simp only [viewOf] at found
    simp [known, found, viewOf]
  | case2 found err built =>
    simp only [viewOf] at found
    simp [known, found, viewOf, Session.register, built]
  | case3 found sql built message failed =>
    simp only [viewOf] at found
    simp [known, found, viewOf, Session.register, built, Connection.execute, sent, failed,
      Except.mapError, QueryError.ofConnection, ConnectionError.engineMessage]
  | case4 found sql built accepted =>
    simp only [viewOf] at found
    simp [known, found, viewOf, Session.register, built, Connection.execute, sent, accepted,
      Except.mapError]

/-- A view is owned by the names that were put in last for it. -/
theorem Owners.of?_cons (view : String) (names : String × String) (owners : Owners)
    (wanted : String) :
    Owners.of? ((view, names) :: owners) wanted =
      if view = wanted then some names else owners.of? wanted := by
  by_cases h : view = wanted <;> simp [Owners.of?, h]

theorem find?_view_snoc (tables : List Entry) (entry : Entry) (view : String) :
    (tables ++ [entry]).find? (fun x => viewOf x == view) =
      (tables.find? fun x => viewOf x == view).or
        (if viewOf entry = view then some entry else none) := by
  by_cases h : viewOf entry = view <;> simp [List.find?_append, h]

/-- The record of owners keeps to the first table of each view name. -/
theorem Made.owner_snoc (h : Made t e tables state) (entry : Entry) (view : String) :
    ((fate t e tables entry).known entry state.1).of? view =
      ((tables ++ [entry]).find? fun x => viewOf x == view).map fun x =>
        (x.1.name, x.2.name) := by
  rw [find?_view_snoc, Option.map_or]
  by_cases same : viewOf entry = view
  · subst same
    fun_cases fate t e tables entry with
    | case1 owner found => simp only [Fate.known, h.owner, found, Option.map_some, Option.some_or]
    | case2 found | case3 found | case4 found =>
      simp only [Fate.known, Owners.of?_cons, found, Option.map_none, Option.none_or, if_true,
        Option.map_some]
  · fun_cases fate t e tables entry <;> simp [Fate.known, Owners.of?_cons, same, h.owner]

/-- Adding a table leaves the state that its fate calls for. -/
theorem Made.value_addTable (h : Made t e tables state) (entry : Entry) :
    (Session.addTable t e state entry).value =
      ((fate t e tables entry).known entry state.1,
        ⟨⟨state.2.connection.sent ++ (fate t e tables entry).statement?.toList.map .batch⟩,
          state.2.registered + (fate t e tables entry).isRegistered.toNat,
          state.2.skipped + (!(fate t e tables entry).isRegistered).toNat⟩) := by
  rw [addTable_eq h entry]
  cases fate t e tables entry <;> simp [Fate.known, Fate.statement?, Fate.isRegistered]

/-- Adding a table sends the statement that its fate calls for, if any. -/
theorem Made.calls_addTable (h : Made t e tables state) (entry : Entry) :
    (Session.addTable t e state entry).calls =
      (fate t e tables entry).statement?.toList.map fun sql =>
        .batch sql (e.batch (sentFor t tables) sql).isNone := by
  rw [addTable_eq h entry]
  fun_cases fate t e tables entry with
  | case1 owner found => rfl
  | case2 found err built => rfl
  | case3 found sql built message failed => simp [Fate.statement?, Session.tellSkipped, failed]
  | case4 found sql built accepted => simp [Fate.statement?, accepted]

theorem Made.notices_addTable (h : Made t e tables state) (entry : Entry) :
    (Session.addTable t e state entry).notices =
      ((fate t e tables entry).notice? entry).toList := by
  rw [addTable_eq h entry]
  cases fate t e tables entry <;> rfl

/-- One more table, whatever becomes of it. -/
theorem Made.addTable (h : Made t e tables state) (entry : Entry) :
    Made t e (tables ++ [entry]) (Session.addTable t e state entry).value := by
  rw [h.value_addTable entry]
  refine ⟨h.owner_snoc entry, ?_, ?_, ?_⟩
  · simp only [sentFor, registrations_snoc t e, List.map_append, h.sent]
  · simp only [splits_snoc, List.countP_append, List.countP_singleton, List.nil_append,
      h.registered]
    cases (fate t e tables entry).isRegistered <;> rfl
  · simp only [splits_snoc, List.countP_append, List.countP_singleton, List.nil_append, h.skipped]
    cases (fate t e tables entry).isRegistered <;> rfl

/-- **Making all views.** The session is what the fates of the tables make it, the calls are those
for the statements of the owners, and each table that is left out gives its notice. -/
theorem register_all (t : FileTree) (e : Engine) (tables : List Entry) :
    Made t e tables (tables.foldlM (Session.addTable t e) ([], ⟨⟨[]⟩, 0, 0⟩)).value ∧
    (tables.foldlM (Session.addTable t e) ([], ⟨⟨[]⟩, 0, 0⟩)).calls =
      batchCalls e (registrations t tables) ∧
    (tables.foldlM (Session.addTable t e) ([], ⟨⟨[]⟩, 0, 0⟩)).notices =
      (splits [] tables).filterMap fun s => (fate t e s.1 s.2).notice? s.2 := by
  induction tables using List.reverseRecOn with
  | nil => exact ⟨⟨fun _ => rfl, rfl, rfl, rfl⟩, rfl, rfl⟩
  | append_singleton tables entry ih =>
    obtain ⟨made, calls, notices⟩ := ih
    rw [Traced.foldlM_snoc]
    refine ⟨made.addTable entry, ?_, ?_⟩
    · rw [Traced.calls_bind, calls, made.calls_addTable, registrations_snoc t e]
      cases (fate t e tables entry).statement? with
      | none => simp
      | some sql => simp [batchCalls_snoc, sentFor]
    · rw [Traced.notices_bind, notices, made.notices_addTable, splits_snoc]
      cases h : (fate t e tables entry).notice? entry <;> simp [h]

end DataShelf.Query
