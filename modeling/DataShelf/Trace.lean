import DataShelf.Engine.Basic

/-!
# Traces

What happens while a value is computed, in order: calls of the engine, statements that were sent to
it, and notices for the operator. `Traced` carries the events beside the value. Of what is told the log
only warnings and errors are notices; what reports progress is left out.
-/

namespace DataShelf
set_option autoImplicit false

/-- How grave a notice is. -/
inductive Level where
  | warning
  | error
  deriving DecidableEq, Repr

/-- Something the operator should know: a sentence, and named details. -/
structure Notice where
  level : Level
  message : String
  details : List (String × String)
  deriving DecidableEq, Repr

/-- The two ways in which a statement is sent. -/
inductive Sending where
  | batch
  | query
  deriving DecidableEq, Repr

/-- Something that happened. -/
inductive Event where
  | call (call : Engine.Call)
  | statement (sending : Sending) (sql : String)
  | notice (notice : Notice)
  deriving DecidableEq, Repr

/-- A value and what happened on the way to it. -/
structure Traced (α : Type) where
  events : List Event
  value : α

namespace Traced

instance : Monad Traced where
  pure a := ⟨[], a⟩
  bind m f :=
    let n := f m.value
    ⟨m.events ++ n.events, n.value⟩

/-- One event. -/
def tell (e : Event) : Traced Unit := ⟨[e], ()⟩

/-- A call of the engine. -/
def call (c : Engine.Call) : Traced Unit := tell (.call c)

/-- A notice without details. -/
def warn (message : String) : Traced Unit := tell (.notice ⟨.warning, message, []⟩)

/-- A notice with details. -/
def warnWith (message : String) (details : List (String × String)) : Traced Unit :=
  tell (.notice ⟨.warning, message, details⟩)

/-- The calls of the engine among the events. -/
def calls {α : Type} (t : Traced α) : List Engine.Call :=
  t.events.filterMap fun | .call c => some c | _ => none

@[simp] theorem events_pure {α : Type} (a : α) : (pure a : Traced α).events = [] := rfl

@[simp] theorem value_pure {α : Type} (a : α) : (pure a : Traced α).value = a := rfl

@[simp] theorem events_bind {α β : Type} (m : Traced α) (f : α → Traced β) :
    (m >>= f).events = m.events ++ (f m.value).events := rfl

@[simp] theorem value_bind {α β : Type} (m : Traced α) (f : α → Traced β) :
    (m >>= f).value = (f m.value).value := rfl

end Traced
end DataShelf
