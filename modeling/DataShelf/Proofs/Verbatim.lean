import DataShelf.Proofs.ReadBack
import DataShelf.Proofs.Remainders

/-!
# Values as they are written

A text spells a value with the members of its objects as they stand there, repeated keys included,
and however deep its lists and objects lie in each other (`Spells`); it spells one value at most
(`Spells.unique`). A value that names each key of an object once is read as it is written
(`value_of_verbatim`), and only a text that spells a value which is not too deep is read
(`exists_spells_of_read`).
-/

namespace DataShelf.Json
set_option autoImplicit false

variable {depth : Nat} {cs rest : List Char} {j : Json}

/-! ### Readers of values -/

/-- Reads a value, its objects made of their members by a function. -/
def valueBy (make : Fields → Fields) : Nat → List Char → Reading Json
  | depth, cs =>
    match skipSpace cs with
    | '[' :: rest =>
      match depth with
      | 0 => stopPeeked .tooDeep ('[' :: rest)
      | d + 1 =>
        (closing closeList (elements (valueBy make d) rest)).map fun r => (.array r.1, r.2)
    | '\x7b' :: rest =>
      match depth with
      | 0 => stopPeeked .tooDeep ('\x7b' :: rest)
      | d + 1 =>
        (closing closeObject (members (valueBy make d) rest)).map
          fun r => (.object (make r.1), r.2)
    | cs => scalar cs

/-- Reads a value with the members of its objects as they stand. -/
def verbatim : Nat → List Char → Reading Json := valueBy id

/-- Values are read with the members of their objects brought together. -/
theorem value_eq_valueBy : value = valueBy objectOf := by
  funext depth
  induction depth with
  | zero =>
    funext cs
    simp only [valueBy]
    exact value.eq_def 0 cs
  | succ depth ih =>
    funext cs
    simp only [valueBy, ← ih]
    exact value.eq_def (depth + 1) cs

section

variable {make make' : Fields → Fields}

/-- What a value that is read can be: a scalar, a list behind a bracket, or an object behind a
brace. -/
theorem valueBy_cases (read : valueBy make depth cs = .ok (j, rest)) :
    scalar (skipSpace cs) = .ok (j, rest) ∨
    (∃ inner behind l, depth = inner + 1 ∧ skipSpace cs = '[' :: behind ∧
      closing closeList (elements (valueBy make inner) behind) = .ok (l, rest) ∧ j = .array l) ∨
    ∃ inner behind l, depth = inner + 1 ∧ skipSpace cs = '\x7b' :: behind ∧
      closing closeObject (members (valueBy make inner) behind) = .ok (l, rest) ∧
      j = .object (make l) := by
  rw [valueBy] at read
  split at read
  · next behind bracket =>
    cases depth with
    | zero => cases read
    | succ inner =>
      obtain ⟨⟨l, end_⟩, whole, same⟩ := map_eq_ok_iff.1 read
      obtain ⟨rfl, rfl⟩ := Prod.mk.inj same
      exact .inr (.inl ⟨inner, behind, l, rfl, bracket, whole, rfl⟩)
  · next behind brace =>
    cases depth with
    | zero => cases read
    | succ inner =>
      obtain ⟨⟨l, end_⟩, whole, same⟩ := map_eq_ok_iff.1 read
      obtain ⟨rfl, rfl⟩ := Prod.mk.inj same
      exact .inr (.inr ⟨inner, behind, l, rfl, brace, whole, rfl⟩)
  · exact .inl read

/-- A scalar is read at any depth. -/
theorem valueBy_of_scalar (read : scalar (skipSpace cs) = .ok (j, rest)) (depth : Nat) :
    valueBy make depth cs = .ok (j, rest) := by
  rw [valueBy]
  split
  · next same =>
    rw [same] at read
    cases read
  · next same =>
    rw [same] at read
    cases read
  · exact read

/-- A list is read one level deeper than its items. -/
theorem valueBy_of_list {behind : List Char} {l : List Json}
    (bracket : skipSpace cs = '[' :: behind)
    (read : closing closeList (elements (valueBy make depth) behind) = .ok (l, rest)) :
    valueBy make (depth + 1) cs = .ok (.array l, rest) := by
  rw [valueBy, bracket]
  simp only [read, Except.map]

theorem valueBy_of_object {behind : List Char} {l : Fields}
    (brace : skipSpace cs = '\x7b' :: behind)
    (read : closing closeObject (members (valueBy make depth) behind) = .ok (l, rest)) :
    valueBy make (depth + 1) cs = .ok (.object (make l), rest) := by
  rw [valueBy, brace]
  simp only [read, Except.map]

/-- A value is taken from the front, whatever is made of members. -/
theorem leaves_valueBy (make : Fields → Fields) (depth : Nat) (cs : List Char) :
    Leaves cs (valueBy make depth cs) := by
  induction depth using Nat.strongRecOn generalizing cs with
  | ind depth ih =>
    intro j rest read
    have dark := skipSpace_suffix cs
    rcases valueBy_cases read with here | ⟨inner, behind, l, rfl, bracket, content, -⟩ |
      ⟨inner, behind, l, rfl, brace, content, -⟩
    · exact (leaves_scalar _ j rest here).trans dark
    · have each := ih inner (Nat.lt_succ_self _)
      have taken := (leaves_items leaves_nextElement each behind true behind).closing
        leaves_closeList l rest content
      exact taken.trans ((List.suffix_cons _ _).trans (bracket ▸ dark))
    · have each := leaves_member (ih inner (Nat.lt_succ_self _))
      have taken := (leaves_items leaves_nextKey each behind true behind).closing
        leaves_closeObject l rest content
      exact taken.trans ((List.suffix_cons _ _).trans (brace ▸ dark))

end

/-! ### Two readers of items -/

section Transfer

variable {α β : Type} {next : Bool → List Char → Reading Bool} {one : List Char → Reading α}
  {one' : List Char → Reading β} {P : α → Prop} {R : α → β → Prop}

/-- A member is a key, a colon and a value. -/
theorem member_eq_ok_iff {e : String × α} : member one cs = .ok (e, rest) ↔
    ∃ behind value, text (cs.drop 1) = .ok (e.1, behind) ∧ colon behind = .ok ((), value) ∧
      one value = .ok (e.2, rest) := by
  constructor
  · intro read
    obtain ⟨⟨key, behind⟩, named, read⟩ := bind_eq_ok_iff.1 read
    obtain ⟨⟨⟨⟩, value⟩, marked, read⟩ := bind_eq_ok_iff.1 read
    obtain ⟨⟨a, end_⟩, here, read⟩ := bind_eq_ok_iff.1 read
    obtain ⟨rfl, rfl⟩ := Prod.mk.inj (Except.ok.inj read)
    exact ⟨behind, value, named, marked, here⟩
  · rintro ⟨behind, value, named, marked, here⟩
    rw [member, named]
    simp only [marked, here, bind, Except.bind]

/-- Where a second reader reads each item that has a property, and comes as far, it reads a
container of such items. -/
theorem items_transfer
    (each : ∀ cs a rest, one cs = .ok (a, rest) → P a → ∃ b, one' cs = .ok (b, rest) ∧ R a b)
    {clock : List Char} {first : Bool} {l : List α}
    (read : items next one clock first cs = .ok (l, rest)) (all : ∀ a ∈ l, P a) :
    ∃ l', items next one' clock first cs = .ok (l', rest) ∧ List.Forall₂ R l l' := by
  induction clock generalizing first cs l with
  | nil =>
    obtain ⟨r, found, same⟩ := bind_eq_ok_iff.1 (items.eq_1 next one first cs ▸ read)
    obtain ⟨rfl, rfl⟩ := Prod.mk.inj (Except.ok.inj same)
    exact ⟨[], by simp [items, found, Except.bind], .nil⟩
  | cons tick ticks ih =>
    rw [items] at read
    obtain ⟨⟨more, here⟩, found, read⟩ := bind_eq_ok_iff.1 read
    cases more with
    | false =>
      obtain ⟨rfl, rfl⟩ := Prod.mk.inj (Except.ok.inj read)
      exact ⟨[], items_stop found _, .nil⟩
    | true =>
      obtain ⟨⟨a, behind⟩, item, read⟩ := bind_eq_ok_iff.1 read
      obtain ⟨⟨others, end_⟩, later, read⟩ := bind_eq_ok_iff.1 read
      obtain ⟨rfl, rfl⟩ := Prod.mk.inj (Except.ok.inj read)
      obtain ⟨here, others⟩ := List.forall_mem_cons.1 all
      obtain ⟨b, item', related⟩ := each _ _ _ item here
      obtain ⟨l', later', relateds⟩ := ih later others
      exact ⟨b :: l', items_step found item' later' tick, .cons related relateds⟩

/-- Where values can be read otherwise, so can members. -/
theorem member_transfer
    (each : ∀ cs a rest, one cs = .ok (a, rest) → P a → ∃ b, one' cs = .ok (b, rest) ∧ R a b)
    (cs : List Char) (e : String × α) (rest : List Char) (read : member one cs = .ok (e, rest))
    (here : P e.2) : ∃ e', member one' cs = .ok (e', rest) ∧ e.1 = e'.1 ∧ R e.2 e'.2 := by
  obtain ⟨behind, value, named, marked, item⟩ := member_eq_ok_iff.1 read
  obtain ⟨b, item', related⟩ := each _ _ _ item here
  exact ⟨(e.1, b), member_eq_ok_iff.2 ⟨behind, value, named, marked, item'⟩, rfl, related⟩

/-- Where a second reader reads each item that has a property as the same, it reads a container of
such items as the same. -/
theorem items_same {one' : List Char → Reading α}
    (each : ∀ cs a rest, one cs = .ok (a, rest) → P a → one' cs = .ok (a, rest))
    {clock : List Char} {first : Bool} {l : List α}
    (read : items next one clock first cs = .ok (l, rest)) (all : ∀ a ∈ l, P a) :
    items next one' clock first cs = .ok (l, rest) := by
  obtain ⟨l', read', same⟩ := items_transfer (R := Eq)
    (fun cs a rest item here => ⟨a, each cs a rest item here, rfl⟩) read all
  rw [List.forall₂_eq_eq_eq] at same
  rwa [same]

theorem member_same {one' : List Char → Reading α}
    (each : ∀ cs a rest, one cs = .ok (a, rest) → P a → one' cs = .ok (a, rest)) (cs : List Char)
    (e : String × α) (rest : List Char) (read : member one cs = .ok (e, rest)) (here : P e.2) :
    member one' cs = .ok (e, rest) := by
  obtain ⟨behind, value, named, marked, item⟩ := member_eq_ok_iff.1 read
  exact member_eq_ok_iff.2 ⟨behind, value, named, marked, each _ _ _ item here⟩

theorem closing_map {close : List Char → Option Fault × List Char} {content : Reading α}
    {content' : Reading β} {a : α} {b : β} (read : closing close content = .ok (a, rest))
    (onto : ∀ behind, content = .ok (a, behind) → content' = .ok (b, behind)) :
    closing close content' = .ok (b, rest) := by
  obtain ⟨behind, here, shut⟩ := closing_eq_ok_iff.1 read
  exact closing_eq_ok_iff.2 ⟨behind, onto behind here, shut⟩

end Transfer

/-! ### Depth -/

/-- At most so many lists and objects lie in each other. -/
inductive Shallow : Nat → Json → Prop
  | flat {depth : Nat} {j : Json} (flat : j.isContainer = false) : Shallow depth j
  | array {depth : Nat} {items : List Json} (inside : ∀ j ∈ items, Shallow depth j) :
    Shallow (depth + 1) (.array items)
  | object {depth : Nat} {fields : Fields} (inside : ∀ e ∈ fields, Shallow depth e.2) :
    Shallow (depth + 1) (.object fields)

theorem Shallow.items {items : List Json} (h : Shallow (depth + 1) (.array items)) :
    ∀ j ∈ items, Shallow depth j := by
  cases h with
  | flat flat => cases flat
  | array inside => exact inside

theorem Shallow.fields {fields : Fields} (h : Shallow (depth + 1) (.object fields)) :
    ∀ e ∈ fields, Shallow depth e.2 := by
  cases h with
  | flat flat => cases flat
  | object inside => exact inside

theorem Shallow.pos (container : j.isContainer = true) (h : Shallow depth j) :
    ∃ inner, depth = inner + 1 := by
  cases h with
  | flat flat => simp [flat] at container
  | array => exact ⟨_, rfl⟩
  | object => exact ⟨_, rfl⟩

/-- What is not too deep for a depth is not for a greater one. -/
theorem Shallow.mono {depth' : Nat} (h : Shallow depth j) (le : depth ≤ depth') :
    Shallow depth' j := by
  induction h generalizing depth' with
  | flat flat => exact .flat flat
  | @array depth items inside ih =>
    obtain ⟨inner, rfl⟩ := Nat.exists_eq_add_of_le' (Nat.le_of_add_left_le le)
    exact .array fun j member => ih j member (Nat.le_of_succ_le_succ le)
  | @object depth fields inside ih =>
    obtain ⟨inner, rfl⟩ := Nat.exists_eq_add_of_le' (Nat.le_of_add_left_le le)
    exact .object fun e member => ih e member (Nat.le_of_succ_le_succ le)

/-- A value is not deeper than it was read. -/
theorem shallow_of_verbatim (read : verbatim depth cs = .ok (j, rest)) : j.Shallow depth := by
  induction depth using Nat.strongRecOn generalizing cs rest j with
  | ind depth ih =>
    rcases valueBy_cases read with scalar | ⟨inner, behind, l, rfl, -, content, rfl⟩ |
      ⟨inner, behind, l, rfl, -, content, rfl⟩
    · exact .flat (isContainer_of_scalar scalar)
    · obtain ⟨_, content, -⟩ := closing_eq_ok_iff.1 content
      exact .array (items_hold (fun _ _ _ => ih inner (Nat.lt_succ_self _)) content)
    · obtain ⟨_, content, -⟩ := closing_eq_ok_iff.1 content
      exact .object (items_hold (member_holds fun _ _ _ => ih inner (Nat.lt_succ_self _)) content)

/-- How many nestings are allowed makes no difference to a value that has fewer. -/
theorem verbatim_of_shallow {depth' : Nat} (read : verbatim depth cs = .ok (j, rest))
    (h : j.Shallow depth') : verbatim depth' cs = .ok (j, rest) := by
  induction depth using Nat.strongRecOn generalizing depth' cs rest j with
  | ind depth ih =>
    rcases valueBy_cases read with scalar | ⟨inner, behind, l, rfl, bracket, content, rfl⟩ |
      ⟨inner, behind, l, rfl, brace, content, rfl⟩
    · exact valueBy_of_scalar scalar _
    · obtain ⟨inner', rfl⟩ := h.pos rfl
      refine valueBy_of_list bracket (closing_map content fun _ content => ?_)
      exact items_same (fun _ _ _ item here => ih inner (Nat.lt_succ_self _) item here) content
        h.items
    · obtain ⟨inner', rfl⟩ := h.pos rfl
      refine valueBy_of_object brace (closing_map content fun _ content => ?_)
      exact items_same (member_same fun _ _ _ item here => ih inner (Nat.lt_succ_self _) item here)
        content h.fields

/-! ### Values that texts spell -/

theorem KeysOnce.items {items : List Json} (h : (Json.array items).KeysOnce) :
    ∀ j ∈ items, j.KeysOnce := by
  cases h with
  | flat flat => cases flat
  | array inside => exact inside

/-- A value that names each key of an object once is read as it is written. -/
theorem value_of_verbatim (read : verbatim depth cs = .ok (j, rest)) (once : j.KeysOnce) :
    value depth cs = .ok (j, rest) := by
  rw [value_eq_valueBy]
  induction depth using Nat.strongRecOn generalizing cs rest j with
  | ind depth ih =>
    rcases valueBy_cases read with scalar | ⟨inner, behind, l, rfl, bracket, content, rfl⟩ |
      ⟨inner, behind, l, rfl, brace, content, rfl⟩
    · exact valueBy_of_scalar scalar _
    · refine valueBy_of_list bracket (closing_map content fun _ content => ?_)
      exact items_same (fun _ _ _ item here => ih inner (Nat.lt_succ_self _) item here) content
        once.items
    · obtain ⟨names, inside⟩ : (l.map (·.1)).Nodup ∧ ∀ e ∈ l, e.2.KeysOnce := once.fields
      have made : Json.object (id l) = .object (objectOf l) :=
        congrArg Json.object (objectOf_of_nodup names).symm
      rw [made]
      refine valueBy_of_object brace (closing_map content fun _ content => ?_)
      exact items_same (member_same fun _ _ _ item here => ih inner (Nat.lt_succ_self _) item here)
        content inside

/-- What is read is written there, perhaps with keys that are repeated. -/
theorem exists_verbatim_of_value (read : value depth cs = .ok (j, rest)) :
    ∃ j', verbatim depth cs = .ok (j', rest) := by
  rw [value_eq_valueBy] at read
  induction depth using Nat.strongRecOn generalizing cs rest j with
  | ind depth ih =>
    have each {inner : Nat} (less : inner < depth) (cs : List Char) (j : Json) (rest : List Char)
        (item : valueBy objectOf inner cs = .ok (j, rest)) (_ : True) :
        ∃ j', verbatim inner cs = .ok (j', rest) ∧ True :=
      (ih inner less item).imp fun _ item' => ⟨item', trivial⟩
    rcases valueBy_cases read with scalar | ⟨inner, behind, l, rfl, bracket, content, rfl⟩ |
      ⟨inner, behind, l, rfl, brace, content, rfl⟩
    · exact ⟨j, valueBy_of_scalar scalar _⟩
    · obtain ⟨after, content, shut⟩ := closing_eq_ok_iff.1 content
      obtain ⟨l', content', -⟩ :=
        items_transfer (each (Nat.lt_succ_self _)) content fun _ _ => trivial
      exact ⟨.array l', valueBy_of_list bracket (closing_eq_ok_iff.2 ⟨after, content', shut⟩)⟩
    · obtain ⟨after, content, shut⟩ := closing_eq_ok_iff.1 content
      obtain ⟨l', content', -⟩ :=
        items_transfer (member_transfer (each (Nat.lt_succ_self _))) content fun _ _ => trivial
      exact ⟨.object l', valueBy_of_object brace (closing_eq_ok_iff.2 ⟨after, content', shut⟩)⟩

/-- A text is read as a whole if nothing but space is left of it. -/
theorem whole_eq_ok_iff {α : Type} {reader : List Char → Reading α} {a : α} :
    whole reader cs = .ok a ↔ ∃ rest, reader cs = .ok (a, rest) ∧ skipSpace rest = [] := by
  constructor
  · intro read
    obtain ⟨⟨b, rest⟩, begins, ends⟩ := bind_eq_ok_iff.1 read
    dsimp only at ends
    split at ends
    · next nothing =>
      obtain rfl := Except.ok.inj ends
      exact ⟨rest, begins, nothing⟩
    · cases ends
  · rintro ⟨rest, begins, nothing⟩
    simp [whole, begins, nothing, bind, Except.bind]

/-- A text spells a value, however deep and with the members of its objects as they stand. -/
def Spells (s : String) (j : Json) : Prop := ∃ depth, whole (verbatim depth) s.toList = .ok j

variable {s : String}

theorem Spells.verbatim (h : Spells s j) (shallow : j.Shallow depth) :
    whole (verbatim depth) s.toList = .ok j := by
  obtain ⟨depth', h⟩ := h
  obtain ⟨rest, read, nothing⟩ := whole_eq_ok_iff.1 h
  exact whole_eq_ok_iff.2 ⟨rest, verbatim_of_shallow read shallow, nothing⟩

/-- A text spells one value at most. -/
theorem Spells.unique {j' : Json} (h : Spells s j) (h' : Spells s j') : j = j' := by
  have shallow {j : Json} (h : Spells s j) : ∃ depth, j.Shallow depth := by
    obtain ⟨depth, h⟩ := h
    obtain ⟨rest, read, -⟩ := whole_eq_ok_iff.1 h
    exact ⟨depth, shallow_of_verbatim read⟩
  obtain ⟨depth, known⟩ := shallow h
  obtain ⟨depth', known'⟩ := shallow h'
  have read := h.verbatim (known.mono (Nat.le_max_left depth depth'))
  rw [h'.verbatim (known'.mono (Nat.le_max_right depth depth'))] at read
  exact (Except.ok.inj read).symm

/-- What is read from a text is spelled there, perhaps with keys that are repeated. -/
theorem exists_spells_of_read (h : read s = .ok j) : ∃ j', Spells s j' ∧ j'.Shallow nestings := by
  obtain ⟨rest, begins, nothing⟩ := whole_eq_ok_iff.1 h
  obtain ⟨j', read⟩ := exists_verbatim_of_value begins
  exact ⟨j', ⟨nestings, whole_eq_ok_iff.2 ⟨rest, read, nothing⟩⟩, shallow_of_verbatim read⟩

end DataShelf.Json
