import DataShelf.Json.Decoder
import Mathlib.Data.List.Induction
import Mathlib.Data.List.Nodup

/-!
# The keys of objects that are read

A value that is read from text names each key of an object once, at every depth (`keysOnce_of_read`):
where the text repeats a key, the last value is kept in the place of the first. A list or an object
is read only where its bracket or brace stands first, so a text that is read as an object is none
that a decoder of lists accepts (`decodeText_list_of_object`). Everything else is a scalar
(`scalar_cases`), and an integer that is read has 64 bits (`fits_of_value`).
-/

namespace DataShelf.Json
set_option autoImplicit false

theorem bind_eq_ok_iff {ε α β : Type} {x : Except ε α} {f : α → Except ε β} {b : β} :
    x >>= f = .ok b ↔ ∃ a, x = .ok a ∧ f a = .ok b := by
  cases x <;> simp [bind, Except.bind]

theorem map_eq_ok_iff {ε α β : Type} {x : Except ε α} {f : α → β} {b : β} :
    x.map f = .ok b ↔ ∃ a, x = .ok a ∧ f a = b := by
  cases x <;> simp [Except.map]

/-! ### Setting fields -/

/-- Setting a key keeps the keys apart. -/
theorem nodup_setField (key : String) (value : Json) {fields : Fields}
    (once : (fields.map (·.1)).Nodup) : ((setField key value fields).map (·.1)).Nodup := by
  rw [keys_setField]
  split
  · exact once
  · next fresh =>
    rw [← List.concat_eq_append]
    exact once.concat fresh

/-- A member behind setting a key has the value that was set, or was there. -/
theorem mem_setField {key : String} {value : Json} {fields : Fields} {e : String × Json}
    (member : e ∈ setField key value fields) : e.2 = value ∨ e ∈ fields := by
  induction fields with
  | nil => exact .inl (by simp_all [setField])
  | cons first rest ih =>
    obtain ⟨k, v⟩ := first
    rw [setField] at member
    split at member <;> rcases List.mem_cons.1 member with rfl | later
    · exact .inl rfl
    · exact .inr (List.mem_cons_of_mem _ later)
    · exact .inr List.mem_cons_self
    · exact (ih later).imp_right (List.mem_cons_of_mem _)

/-- Each key of an object stands once in it, with one of the values that it was given. -/
theorem objectOf_holds (pairs : Fields) : ((objectOf pairs).map (·.1)).Nodup ∧
    ∀ e ∈ objectOf pairs, ∃ pair ∈ pairs, e.2 = pair.2 := by
  rw [objectOf]
  induction pairs using List.reverseRecOn with
  | nil => simp
  | append_singleton pairs pair ih =>
    rw [List.foldl_append, List.foldl_cons, List.foldl_nil]
    refine ⟨nodup_setField _ _ ih.1, fun e member => ?_⟩
    rcases mem_setField member with same | old
    · exact ⟨pair, by simp, same⟩
    · obtain ⟨given, known, same⟩ := ih.2 e old
      exact ⟨given, List.mem_append_left _ known, same⟩

/-- Fields that name each key once are found by their keys. -/
theorem lookup?_eq_some_iff {fields : Fields} (once : (fields.map (·.1)).Nodup) {key : String}
    {j : Json} : lookup? key fields = some j ↔ (key, j) ∈ fields := by
  induction fields with
  | nil => simp [lookup?]
  | cons first rest ih =>
    obtain ⟨k, v⟩ := first
    obtain ⟨fresh, once⟩ := List.nodup_cons.1 once
    rw [lookup?]
    by_cases same : k = key
    · subst same
      have later : (k, j) ∉ rest := fun member => fresh (List.mem_map.2 ⟨_, member, rfl⟩)
      simp [later, eq_comm]
    · simp [same, ih once, Ne.symm same]

/-! ### Values that are read -/

/-- Lists and objects. -/
def isContainer : Json → Bool
  | .array _ => true
  | .object _ => true
  | _ => false

/-- The values that lie in a list or an object, not deeper. -/
def parts : Json → List Json
  | .array items => items
  | .object fields => fields.map (·.2)
  | _ => []

/-- Every object in a value names each key once. -/
inductive KeysOnce : Json → Prop
  | flat {j : Json} (flat : j.isContainer = false) : KeysOnce j
  | array {items : List Json} (inside : ∀ j ∈ items, KeysOnce j) : KeysOnce (.array items)
  | object {fields : Fields} (once : (fields.map (·.1)).Nodup)
      (inside : ∀ e ∈ fields, KeysOnce e.2) : KeysOnce (.object fields)

theorem KeysOnce.fields {fields : Fields} (h : (Json.object fields).KeysOnce) :
    (fields.map (·.1)).Nodup ∧ ∀ e ∈ fields, e.2.KeysOnce := by
  cases h with
  | flat flat => cases flat
  | object once inside => exact ⟨once, inside⟩

theorem KeysOnce.field? {j j' : Json} {key : String} (h : j.KeysOnce)
    (found : j.field? key = some j') : j'.KeysOnce := by
  cases j with
  | object fields => exact h.fields.2 _ ((lookup?_eq_some_iff h.fields.1).1 found)
  | _ => cases found

/-- The integers that keep their kind in text: those of 64 bits, with a sign or without. -/
def Fits (n : Int) : Prop := -(Nat.pow 2 63 : Int) ≤ n ∧ n < Nat.pow 2 64

instance (n : Int) : Decidable (Fits n) := inferInstanceAs (Decidable (_ ∧ _))

theorem fits_iff {n : Int} : Fits n ↔ -9223372036854775808 ≤ n ∧ n < 18446744073709551616 :=
  Iff.rfl

/-- What a number in a text is read as: a double, or an integer of 64 bits. -/
inductive IsNumber : Json → Prop
  | float (x : Number.Double) : IsNumber (.float x)
  | integer {n : Int} (fits : Fits n) : IsNumber (.integer n)

/-- A reading gives a number or none. -/
def GivesNumber (r : Reading Json) : Prop := ∀ j rest, r = .ok (j, rest) → IsNumber j

section Numbers

variable {negative : Bool} {significand : Nat}

theorem givesNumber_stop (ahead : Nat) (flaw : Flaw) (cs : List Char) :
    GivesNumber (stopBehind ahead flaw cs) :=
  nofun

theorem givesNumber_ok {j : Json} (number : IsNumber j) (rest : List Char) :
    GivesNumber (.ok (j, rest)) := by
  rintro _ _ ⟨⟩
  exact number

/-- What a number ends with gives a number. -/
theorem givesNumber_finish (exponent : Int) (cs : List Char) :
    GivesNumber (finish negative significand exponent cs) := by
  unfold finish
  split
  · exact givesNumber_ok (.float _) _
  · exact givesNumber_stop _ _ _

/-- An exponent gives a number. -/
theorem givesNumber_exponentTail (shift : Int) (cs : List Char) :
    GivesNumber (exponentTail negative significand shift cs) := by
  unfold exponentTail
  dsimp only
  repeat' split
  all_goals first
    | exact givesNumber_stop _ _ _
    | exact givesNumber_ok (.float _) _
    | exact givesNumber_finish _ _

theorem givesNumber_exponentOrEnd (shift : Int) (cs : List Char) :
    GivesNumber (exponentOrEnd negative significand shift cs) := by
  unfold exponentOrEnd
  split
  · exact givesNumber_exponentTail _ _
  · exact givesNumber_finish _ _

/-- A fraction gives a number. -/
theorem givesNumber_fractionTail (shift : Int) (cs : List Char) :
    GivesNumber (fractionTail negative significand shift cs) := by
  unfold fractionTail
  dsimp only
  split
  · exact givesNumber_exponentOrEnd _ _
  · split
    · exact givesNumber_stop _ _ _
    · exact givesNumber_exponentOrEnd _ _

/-- As many digits are taken as stay below the limit. -/
theorem takeDigits_lt {limit n : Nat} (small : n < limit) (taken : Nat) (cs : List Char) :
    (takeDigits limit n taken cs).1 < limit := by
  induction cs generalizing n taken with
  | nil => exact small
  | cons c cs ih =>
    rw [takeDigits]
    split
    · next more => exact ih (by simpa using (Bool.and_eq_true_iff.1 more).2) _
    · exact small

/-- A significand below the limit is a number, with a sign or without. -/
theorem isNumber_integerOf (negative : Bool) (small : significand < significandLimit) :
    IsNumber (integerOf negative significand) := by
  have limit : significandLimit = 2 ^ 64 := rfl
  have half : Nat.pow 2 63 = 2 ^ 63 := rfl
  unfold integerOf
  split
  · exact .integer (fits_iff.2 ⟨by omega, by omega⟩)
  · split
    · exact .float _
    · next fits =>
      have room : significand ≤ 2 ^ 63 := by
        rw [Bool.or_eq_true, not_or, decide_eq_true_iff, decide_eq_true_iff, half] at fits
        omega
      exact .integer (fits_iff.2 ⟨by omega, by omega⟩)

/-- Whatever is read as a number is one that fits, or one with a fraction. -/
theorem givesNumber_number (negative : Bool) (cs : List Char) :
    GivesNumber (number negative cs) := by
  have zero : 0 < significandLimit := by decide
  unfold number
  dsimp only
  repeat' split
  all_goals first
    | exact givesNumber_stop _ _ _
    | exact givesNumber_ok (isNumber_integerOf _ zero) _
    | exact givesNumber_ok (isNumber_integerOf _ (takeDigits_lt zero _ _)) _
    | exact givesNumber_fractionTail _ _
    | exact givesNumber_exponentTail _ _
    | exact givesNumber_exponentOrEnd _ _

end Numbers

/-- What a scalar is read as. -/
theorem scalar_cases {cs rest : List Char} {j : Json} (read : scalar cs = .ok (j, rest)) :
    j = .null ∨ (∃ b, j = .bool b) ∨ (∃ s, j = .string s) ∨ IsNumber j := by
  unfold scalar at read
  split at read
  · cases read
  · repeat' split at read
    · obtain ⟨_, -, same⟩ := map_eq_ok_iff.1 read
      exact .inl (Prod.mk.inj same).1.symm
    · obtain ⟨_, -, same⟩ := map_eq_ok_iff.1 read
      exact .inr (.inl ⟨_, (Prod.mk.inj same).1.symm⟩)
    · obtain ⟨_, -, same⟩ := map_eq_ok_iff.1 read
      exact .inr (.inl ⟨_, (Prod.mk.inj same).1.symm⟩)
    · obtain ⟨_, -, same⟩ := map_eq_ok_iff.1 read
      exact .inr (.inr (.inl ⟨_, (Prod.mk.inj same).1.symm⟩))
    · exact .inr (.inr (.inr (givesNumber_number _ _ _ _ read)))
    · exact .inr (.inr (.inr (givesNumber_number _ _ _ _ read)))
    · cases read

/-- A scalar is no list and no object. -/
theorem isContainer_of_scalar {cs rest : List Char} {j : Json} (read : scalar cs = .ok (j, rest)) :
    j.isContainer = false := by
  rcases scalar_cases read with rfl | ⟨b, rfl⟩ | ⟨s, rfl⟩ | number
  · rfl
  · rfl
  · rfl
  · cases number <;> rfl

/-- What holds of every item that is read holds of all items of a container. -/
theorem items_hold {α : Type} {P : α → Prop} {next : Bool → List Char → Reading Bool}
    {one : List Char → Reading α} (each : ∀ cs a rest, one cs = .ok (a, rest) → P a)
    {clock : List Char} {first : Bool} {cs rest : List Char} {l : List α}
    (read : items next one clock first cs = .ok (l, rest)) : ∀ a ∈ l, P a := by
  induction clock generalizing first cs l rest with
  | nil =>
    obtain ⟨r, -, same⟩ := bind_eq_ok_iff.1 (items.eq_1 next one first cs ▸ read)
    obtain ⟨rfl, -⟩ := Prod.mk.inj (Except.ok.inj same)
    simp
  | cons tick ticks ih =>
    rw [items] at read
    obtain ⟨⟨more, behind⟩, -, read⟩ := bind_eq_ok_iff.1 read
    cases more with
    | false =>
      obtain ⟨rfl, -⟩ := Prod.mk.inj (Except.ok.inj read)
      simp
    | true =>
      obtain ⟨⟨a, onwards⟩, item, read⟩ := bind_eq_ok_iff.1 read
      obtain ⟨⟨others, end_⟩, later, read⟩ := bind_eq_ok_iff.1 read
      obtain ⟨rfl, -⟩ := Prod.mk.inj (Except.ok.inj read)
      exact List.forall_mem_cons.2 ⟨each _ _ _ item, ih later⟩

/-- What holds of every value that is read holds of the value of a member. -/
theorem member_holds {α : Type} {P : α → Prop} {one : List Char → Reading α}
    (each : ∀ cs a rest, one cs = .ok (a, rest) → P a) (cs : List Char) (e : String × α)
    (rest : List Char) (read : member one cs = .ok (e, rest)) : P e.2 := by
  obtain ⟨key, -, read⟩ := bind_eq_ok_iff.1 read
  obtain ⟨mark, -, read⟩ := bind_eq_ok_iff.1 read
  obtain ⟨item, here, read⟩ := bind_eq_ok_iff.1 read
  obtain ⟨rfl, -⟩ := Prod.mk.inj (Except.ok.inj read)
  exact each _ _ _ here

/-- What stands in brackets was read before they were shut. -/
theorem ok_of_closing {α : Type} {close : List Char → Option Fault × List Char}
    {content : Reading α} {a : α} {rest : List Char} (read : closing close content = .ok (a, rest)) :
    ∃ rest', content = .ok (a, rest') := by
  unfold closing at read
  split at read
  · split at read
    · obtain ⟨rfl, rfl⟩ := Prod.mk.inj (Except.ok.inj read)
      exact ⟨_, rfl⟩
    · cases read
  · cases read
  · cases read

/-- What a value that is read can be: a list of values behind a bracket, an object of values behind
a brace, or neither. -/
theorem value_cases {depth : Nat} {cs rest : List Char} {j : Json}
    (read : value depth cs = .ok (j, rest)) :
    scalar (skipSpace cs) = .ok (j, rest) ∨
    (∃ inner behind l rest', depth = inner + 1 ∧ skipSpace cs = '[' :: behind ∧
      elements (value inner) behind = .ok (l, rest') ∧ j = .array l) ∨
    ∃ inner behind l rest', depth = inner + 1 ∧ skipSpace cs = '\x7b' :: behind ∧
      members (value inner) behind = .ok (l, rest') ∧ j = .object (objectOf l) := by
  rw [value] at read
  split at read
  · next behind bracket =>
    cases depth with
    | zero => cases read
    | succ inner =>
      obtain ⟨⟨l, _⟩, whole, same⟩ := map_eq_ok_iff.1 read
      obtain ⟨rfl, -⟩ := Prod.mk.inj same
      obtain ⟨rest', content⟩ := ok_of_closing whole
      exact .inr (.inl ⟨inner, behind, l, rest', rfl, bracket, content, rfl⟩)
  · next behind brace =>
    cases depth with
    | zero => cases read
    | succ inner =>
      obtain ⟨⟨l, _⟩, whole, same⟩ := map_eq_ok_iff.1 read
      obtain ⟨rfl, -⟩ := Prod.mk.inj same
      obtain ⟨rest', content⟩ := ok_of_closing whole
      exact .inr (.inr ⟨inner, behind, l, rest', rfl, brace, content, rfl⟩)
  · exact .inl read

/-- Every object in a value that is read names each key once. -/
theorem keysOnce_of_value {depth : Nat} {cs rest : List Char} {j : Json}
    (read : value depth cs = .ok (j, rest)) : j.KeysOnce := by
  induction depth using Nat.strongRecOn generalizing cs rest j with
  | ind depth ih =>
    rcases value_cases read with scalar | ⟨inner, behind, l, rest', rfl, -, content, rfl⟩ |
      ⟨inner, behind, l, rest', rfl, -, content, rfl⟩
    · exact .flat (isContainer_of_scalar scalar)
    · exact .array (items_hold (fun _ _ _ => ih inner (Nat.lt_succ_self _)) content)
    · have inside : ∀ e ∈ l, e.2.KeysOnce := items_hold
        (member_holds fun _ _ _ => ih inner (Nat.lt_succ_self _)) content
      refine .object (objectOf_holds l).1 fun e member => ?_
      obtain ⟨pair, given, same⟩ := (objectOf_holds l).2 e member
      exact same ▸ inside pair given

/-- A text that is read begins with a value. -/
theorem value_of_read {s : String} {j : Json} (h : read s = .ok j) :
    ∃ rest, value nestings s.toList = .ok (j, rest) := by
  obtain ⟨⟨a, rest⟩, begins, ends⟩ := bind_eq_ok_iff.1 h
  refine ⟨rest, ?_⟩
  dsimp only at ends
  split at ends
  · rw [begins, Except.ok.inj ends]
  · cases ends

/-- An integer that is read has 64 bits. -/
theorem fits_of_value {depth : Nat} {cs rest : List Char} {n : Int}
    (read : value depth cs = .ok (.integer n, rest)) : Fits n := by
  rcases value_cases read with scalar | ⟨_, _, _, _, -, -, -, other⟩ | ⟨_, _, _, _, -, -, -, other⟩
  · rcases scalar_cases scalar with h | ⟨_, h⟩ | ⟨_, h⟩ | number
    · cases h
    · cases h
    · cases h
    · cases number with
      | integer fits => exact fits
  · cases other
  · cases other

/-- An integer in a list or an object that is read has 64 bits. -/
theorem fits_of_part {depth : Nat} {cs rest : List Char} {j : Json} {n : Int}
    (read : value depth cs = .ok (j, rest)) (member : .integer n ∈ j.parts) : Fits n := by
  have here (inner : Nat) (cs : List Char) (j : Json) (rest : List Char)
      (read : value inner cs = .ok (j, rest)) : ∀ n, j = .integer n → Fits n := by
    rintro n rfl
    exact fits_of_value read
  rcases value_cases read with scalar | ⟨inner, behind, l, rest', rfl, -, content, rfl⟩ |
    ⟨inner, behind, l, rest', rfl, -, content, rfl⟩
  · have flat := isContainer_of_scalar scalar
    cases j with
    | array items => cases flat
    | object fields => cases flat
    | _ => simp [parts] at member
  · exact items_hold (here inner) content _ member n rfl
  · obtain ⟨e, inside, same⟩ := List.mem_map.1 member
    obtain ⟨pair, given, value⟩ := (objectOf_holds l).2 e inside
    exact items_hold (member_holds (here inner)) content pair given n (value.symm.trans same)

theorem keysOnce_of_read {s : String} {j : Json} (h : read s = .ok j) : j.KeysOnce := by
  obtain ⟨rest, begins⟩ := value_of_read h
  exact keysOnce_of_value begins

/-- A text that is read as an object is no list. -/
theorem decodeText_list_of_object {α : Type} (d : Decoder α) {s : String} {fields : Fields}
    (h : read s = .ok (.object fields)) (l : List α) : (Decoder.list d).decodeText s ≠ .ok l := by
  intro decoded
  obtain ⟨rest, begins⟩ := value_of_read h
  rcases value_cases begins with scalar | ⟨_, _, _, _, -, -, -, other⟩ | ⟨_, _, _, _, -, brace, -, -⟩
  · cases isContainer_of_scalar scalar
  · cases other
  · rw [Decoder.decodeText, whole, Decoder.list] at decoded
    dsimp only at decoded
    rw [brace] at decoded
    cases decoded

end DataShelf.Json
