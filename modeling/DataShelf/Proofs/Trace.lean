import DataShelf.Trace

/-!
# Laws of traces

Computations with a trace form a lawful monad. What is asked of a trace, be it the calls of the
engine or the notices for the operator, is taken from its parts in order (`calls_bind`,
`notices_bind`), and what each step of a fold keeps the whole fold keeps (`value_foldlM`).
-/

namespace DataShelf.Traced
set_option autoImplicit false

variable {α β : Type}

/-- A value with its events is told by both. -/
theorem ext {s t : Traced α} (he : s.events = t.events) (hv : s.value = t.value) : s = t := by
  cases s
  cases t
  simp_all

instance : LawfulMonad Traced :=
  LawfulMonad.mk' Traced
    (fun _ => ext (List.append_nil _) rfl)
    (fun _ _ => ext (List.nil_append _) rfl)
    (fun _ _ _ => ext (List.append_assoc _ _ _) rfl)

@[simp] theorem value_map (f : α → β) (m : Traced α) : (f <$> m).value = f m.value := rfl

@[simp] theorem events_map (f : α → β) (m : Traced α) : (f <$> m).events = m.events :=
  List.append_nil _

/-- What follows a value need only do the same with that value. -/
theorem bind_congr_value {m : Traced α} {f g : α → Traced β} (same : f m.value = g m.value) :
    m >>= f = m >>= g := by
  apply ext
  · rw [events_bind, events_bind, same]
  · rw [value_bind, value_bind, same]

/-! ### Calls and notices -/

/-- The notices for the operator among the events. -/
def notices (t : Traced α) : List Notice :=
  t.events.filterMap fun | .notice n => some n | _ => none

@[simp] theorem calls_pure (a : α) : (pure a : Traced α).calls = [] := rfl

@[simp] theorem calls_map (f : α → β) (m : Traced α) : (f <$> m).calls = m.calls := by
  simp [calls]

/-- The calls of two steps are those of the first and then of the second. -/
@[simp] theorem calls_bind (m : Traced α) (f : α → Traced β) :
    (m >>= f).calls = m.calls ++ (f m.value).calls := by
  simp [calls]

@[simp] theorem calls_call (c : Engine.Call) : (call c).calls = [c] := rfl

@[simp] theorem calls_statement (s : Sending) (sql : String) :
    (tell (.statement s sql)).calls = [] := rfl

@[simp] theorem calls_warn (message : String) : (warn message).calls = [] := rfl

@[simp] theorem calls_warnWith (message : String) (details : List (String × String)) :
    (warnWith message details).calls = [] := rfl

@[simp] theorem notices_pure (a : α) : (pure a : Traced α).notices = [] := rfl

@[simp] theorem notices_map (f : α → β) (m : Traced α) : (f <$> m).notices = m.notices := by
  simp [notices]

/-- The notices of two steps are those of the first and then of the second. -/
@[simp] theorem notices_bind (m : Traced α) (f : α → Traced β) :
    (m >>= f).notices = m.notices ++ (f m.value).notices := by
  simp [notices]

@[simp] theorem notices_call (c : Engine.Call) : (call c).notices = [] := rfl

@[simp] theorem notices_statement (s : Sending) (sql : String) :
    (tell (.statement s sql)).notices = [] := rfl

@[simp] theorem notices_warnWith (message : String) (details : List (String × String)) :
    (warnWith message details).notices = [⟨.warning, message, details⟩] := rfl

/-! ### Folds -/

/-- A loop takes the last item in its last step. -/
theorem foldlM_snoc (f : β → α → Traced β) (b : β) (l : List α) (a : α) :
    (l ++ [a]).foldlM f b = l.foldlM f b >>= fun b => f b a := by
  simp [List.foldlM_append]

/-- What each step of a fold keeps holds at its end. -/
theorem value_foldlM {P : β → Prop} {f : β → α → Traced β} {l : List α} {b : β} (hb : P b)
    (step : ∀ b, P b → ∀ a ∈ l, P (f b a).value) : P (l.foldlM f b).value := by
  induction l generalizing b with
  | nil => exact hb
  | cons a l ih =>
    rw [List.foldlM_cons, value_bind]
    exact ih (step b hb a List.mem_cons_self) fun b hb a ha =>
      step b hb a (List.mem_cons_of_mem _ ha)

end DataShelf.Traced
