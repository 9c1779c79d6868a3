import DataShelf.Proofs.Verbatim

/-!
# Values over several lines read back

A value over several lines has the same tokens as on one line, with line breaks and indentation
between them (`writeWideElements_eq_joined`, `writeWideMembers_eq_joined`). A reader passes over
these, so such a text spells the value under the same conditions (`spells_pretty`), and gives it
back (`read_pretty`).
-/

namespace DataShelf.Json
set_option autoImplicit false

/-- A line break with its indent is space. -/
theorem isGap_breakLine (depth : Nat) : IsGap (breakLine depth) := by
  intro c member
  rcases List.mem_cons.1 member with rfl | later
  · rfl
  · rw [List.eq_of_mem_replicate later]
    rfl

theorem stops_breakLine (depth : Nat) (rest : List Char) : Stops (breakLine depth ++ rest) := by
  rintro c ⟨⟩
  exact .inr (.inr (.inr rfl))

/-- An element on a line of its own. -/
def wideElement (depth : Nat) (j : Json) : List Char := breakLine depth ++ writeWide depth j

/-- A member on a line of its own. -/
def wideMember (depth : Nat) (e : String × Json) : List Char :=
  breakLine depth ++ memberText [' '] (writeWide depth) e

/-- The elements of a list are written on lines of their own, with commas between. -/
theorem writeWideElements_eq_joined (depth : Nat) (l : List Json) :
    writeWideElements depth l = joined (wideElement depth) l := by
  induction l with
  | nil => rfl
  | cons j l ih =>
    cases l with
    | nil => simp [writeWideElements, joined, wideElement]
    | cons j' l =>
      rw [writeWideElements, ih]
      · simp [joined, wideElement]
      · simp

/-- The members of an object are written on lines of their own, with commas between. -/
theorem writeWideMembers_eq_joined (depth : Nat) (l : Fields) :
    writeWideMembers depth l = joined (wideMember depth) l := by
  induction l with
  | nil => rfl
  | cons e l ih =>
    cases l with
    | nil => simp [writeWideMembers, joined, wideMember, memberText]
    | cons e' l =>
      rw [writeWideMembers, ih]
      · simp [joined, wideMember, memberText]
      · simp

/-- The gap before the closing mark of a container: none if there is nothing in it. -/
def closingGap {α : Type} (depth : Nat) : List α → List Char
  | [] => []
  | _ :: _ => breakLine depth

theorem isGap_closingGap {α : Type} (depth : Nat) (l : List α) : IsGap (closingGap depth l) := by
  cases l with
  | nil => exact nofun
  | cons a l => exact isGap_breakLine depth

theorem stops_closingGap {α : Type} (depth : Nat) (l : List α) {mark : Char}
    (closes : mark = ']' ∨ mark = '\x7d') (rest : List Char) :
    Stops (closingGap depth l ++ mark :: rest) := by
  cases l with
  | nil => exact stops_mark closes rest
  | cons a l => exact stops_breakLine depth (mark :: rest)

theorem writeWide_array (depth : Nat) (l : List Json) :
    writeWide depth (.array l) =
      '[' :: (joined (wideElement (depth + 1)) l ++ closingGap depth l ++ [']']) := by
  cases l with
  | nil => rfl
  | cons j l => rw [writeWide, writeWideElements_eq_joined, closingGap]; simp

theorem writeWide_object (depth : Nat) (l : Fields) :
    writeWide depth (.object l) =
      '\x7b' :: (joined (wideMember (depth + 1)) l ++ closingGap depth l ++ ['\x7d']) := by
  cases l with
  | nil => rfl
  | cons e l => rw [writeWide, writeWideMembers_eq_joined, closingGap]; simp

/-- The wide text of a value begins a value. -/
theorem Exact.begins_wide {limit : Nat} {j : Json} (h : Exact limit j) (depth : Nat) :
    Begins (writeWide depth j) := by
  cases j with
  | array items => exact ⟨'[', _, writeWide_array depth items, rfl, by decide⟩
  | object fields => exact ⟨'\x7b', _, writeWide_object depth fields, rfl, by decide⟩
  | _ => exact begins_writeScalar h trivial

section Readers

variable {make : Fields → Fields} {limit : Nat} {j : Json}

/-- Space in front of a value changes nothing about it. -/
theorem valueBy_gap {gap : List Char} (spaces : IsGap gap) (rest : List Char) :
    valueBy make limit (gap ++ rest) = valueBy make limit rest := by
  rw [valueBy, valueBy, skipSpace_gap spaces]

/-- The text of a scalar is read as the scalar, whatever is made of members. -/
theorem valueBy_writeScalar (h : Exact limit j) (plain : IsScalar j) {rest : List Char}
    (stops : Stops rest) : valueBy make limit (writeScalar j ++ rest) = .ok (j, rest) := by
  have read := value_writeScalar h plain stops
  rw [value_eq_valueBy] at read
  rcases valueBy_cases read with scalar | ⟨_, _, _, -, -, -, rfl⟩ | ⟨_, _, _, -, -, -, rfl⟩
  · exact valueBy_of_scalar scalar limit
  · exact plain.elim
  · exact plain.elim

/-- The text of a value over several lines is read as the value, and nothing behind it, whatever
readers make of members with repeated keys. -/
theorem valueBy_writeWide (single : ∀ l : Fields, (l.map (·.1)).Nodup → make l = l)
    (h : Exact limit j) (depth : Nat) (rest : List Char) (stops : Stops rest) :
    valueBy make limit (writeWide depth j ++ rest) = .ok (j, rest) := by
  have space : IsGap [' '] := by
    rintro c ⟨⟩
    · rfl
    · contradiction
  induction h generalizing depth rest with
  | null => exact valueBy_writeScalar .null trivial stops
  | bool b => exact valueBy_writeScalar (.bool b) trivial stops
  | integer fits => exact valueBy_writeScalar (.integer fits) trivial stops
  | string s => exact valueBy_writeScalar (.string s) trivial stops
  | @array _ l inside ih =>
    have text : writeWide depth (.array l) ++ rest =
        '[' :: (joined (wideElement (depth + 1)) l ++ (closingGap depth l ++ ']' :: rest)) := by
      simp [writeWide_array]
    rw [text]
    apply valueBy_of_list (skipSpace_cons rfl _)
    refine closing_elements (isGap_closingGap depth l) (stops_closingGap depth l (.inl rfl))
      (fun j member => ?_) (fun j member => ((inside j member).begins_wide (depth + 1)).ne_nil) rest
    exact nextElement_reads (isGap_breakLine _) ((inside j member).begins_wide _)
      (ih j member (depth + 1))
  | @object _ fields once inside ih =>
    have text : writeWide depth (.object fields) ++ rest =
        '\x7b' :: (joined (wideMember (depth + 1)) fields ++
          (closingGap depth fields ++ '\x7d' :: rest)) := by
      simp [writeWide_object]
    rw [text, ← single fields once]
    apply valueBy_of_object (skipSpace_cons rfl _)
    rw [single fields once]
    refine closing_members (isGap_closingGap depth fields)
      (stops_closingGap depth fields (.inr rfl)) (fun e member => ?_) rest
    exact nextKey_reads (isGap_breakLine _) (valueBy_gap space) (ih e member (depth + 1))

end Readers

variable {j : Json}

/-- The text of a value over several lines spells the value. -/
theorem spells_pretty (h : Exact nestings j) : Spells (pretty j) j := by
  have begins : verbatim nestings (writeWide 0 j ++ []) = .ok (j, []) :=
    valueBy_writeWide (fun _ _ => rfl) h 0 [] (by rintro c ⟨⟩)
  rw [List.append_nil] at begins
  refine ⟨nestings, whole_eq_ok_iff.2 ⟨[], ?_, rfl⟩⟩
  rwa [pretty, String.toList_ofList]

/-- The text of a value over several lines is read as the value. -/
theorem read_pretty (h : Exact nestings j) : read (pretty j) = .ok j := by
  have begins := valueBy_writeWide (fun _ once => objectOf_of_nodup once) h 0 [] (by rintro c ⟨⟩)
  rw [List.append_nil] at begins
  rw [read, pretty, String.toList_ofList, whole, value_eq_valueBy, begins]
  rfl

end DataShelf.Json
