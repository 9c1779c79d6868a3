import DataShelf.Proofs.WrittenScalars

/-!
# Values read back

The text of a value on one line is read as the value (`read_compact`) if there are no doubles in it,
its integers have 64 bits, its objects name each key once, and its lists and objects do not lie too
deep in each other (`Exact`). Such a text is one line: no control character is in it
(`printable_write`).
-/

namespace DataShelf.Json
set_option autoImplicit false

/-- A value that its text gives back, where so many lists and objects may lie in each other. -/
inductive Exact : Nat → Json → Prop
  | null {depth : Nat} : Exact depth .null
  | bool {depth : Nat} (b : Bool) : Exact depth (.bool b)
  | integer {depth : Nat} {n : Int} (fits : Fits n) : Exact depth (.integer n)
  | string {depth : Nat} (s : String) : Exact depth (.string s)
  | array {depth : Nat} {items : List Json} (inside : ∀ j ∈ items, Exact depth j) :
    Exact (depth + 1) (.array items)
  | object {depth : Nat} {fields : Fields} (once : (fields.map (·.1)).Nodup)
    (inside : ∀ e ∈ fields, Exact depth e.2) : Exact (depth + 1) (.object fields)

/-- A key that is new goes to the end. -/
theorem setField_of_fresh {fields : Fields} {key : String} (fresh : key ∉ fields.map (·.1))
    (j : Json) : setField key j fields = fields ++ [(key, j)] := by
  induction fields with
  | nil => rfl
  | cons first rest ih =>
    obtain ⟨k, v⟩ := first
    simp only [List.map_cons, List.mem_cons, not_or] at fresh
    rw [setField, if_neg (Ne.symm fresh.1), ih fresh.2, List.cons_append]

/-- Fields that name each key once are the object that they make. -/
theorem objectOf_of_nodup {fields : Fields} (once : (fields.map (·.1)).Nodup) :
    objectOf fields = fields := by
  rw [objectOf]
  induction fields using List.reverseRecOn with
  | nil => rfl
  | append_singleton fields e ih =>
    rw [List.map_append, List.nodup_append] at once
    have new : e.1 ∉ fields.map (·.1) := fun member => once.2.2 _ member e.1 (by simp) rfl
    rw [List.foldl_append, ih once.1]
    exact setField_of_fresh new e.2

/-! ### Items -/

/-- Items with commas between them. -/
def joined {α : Type} (put : α → List Char) : List α → List Char
  | [] => []
  | a :: l => put a ++ l.flatMap fun a => ',' :: put a

/-- How a member stands in an object: its key, a colon, space and its value. -/
def memberText (space : List Char) (put : Json → List Char) (e : String × Json) : List Char :=
  writeText e.1 ++ ':' :: (space ++ put e.2)

/-- How a member stands in an object on one line. -/
def writeMember (e : String × Json) : List Char := memberText [] write e

/-- The elements of a list are written one after the other, with commas between. -/
theorem writeElements_eq_joined (l : List Json) : writeElements l = joined write l := by
  induction l with
  | nil => rfl
  | cons j l ih =>
    cases l with
    | nil => simp [writeElements, joined]
    | cons j' l =>
      rw [writeElements, ih]
      · rfl
      · simp

/-- The members of an object are written one after the other, with commas between. -/
theorem writeMembers_eq_joined (l : Fields) : writeMembers l = joined writeMember l := by
  induction l with
  | nil => rfl
  | cons e l ih =>
    cases l with
    | nil => simp [writeMembers, joined, writeMember, memberText]
    | cons e' l =>
      rw [writeMembers, ih]
      · simp [joined, writeMember, memberText]
      · simp

/-- Joined texts are no shorter than there are of them. -/
theorem length_joined {α : Type} {put : α → List Char} {l : List α} (filled : ∀ a ∈ l, put a ≠ []) :
    l.length ≤ (joined put l).length := by
  cases l with
  | nil => exact Nat.le_refl 0
  | cons a l =>
    have here : 0 < (put a).length := List.length_pos_iff.2 (filled a List.mem_cons_self)
    have later : l.length ≤ (l.flatMap fun a => ',' :: put a).length := by
      clear here filled
      induction l with
      | nil => exact Nat.le_refl 0
      | cons a l ih =>
        rw [List.flatMap_cons, List.length_append, List.length_cons, List.length_cons]
        omega
    rw [joined, List.length_append, List.length_cons]
    omega

section Items

variable {α : Type} {next : Bool → List Char → Reading Bool} {one : List Char → Reading α}
  {gap shut : List Char} {put : α → List Char} {mark : Char}

/-- An item of a container is found and read where it was put behind a gap, be it the first or
another. -/
structure Reads (next : Bool → List Char → Reading Bool) (one : List Char → Reading α)
    (gap : List Char) (put : α → List Char) (a : α) : Prop where
  begins : ∀ rest, next true (gap ++ (put a ++ rest)) = .ok (true, put a ++ rest)
  goesOn : ∀ rest, next false (',' :: (gap ++ (put a ++ rest))) = .ok (true, put a ++ rest)
  item : ∀ rest, Stops rest → one (put a ++ rest) = .ok (a, rest)

/-- A comma stops what is in front of it. -/
theorem stops_further (put : α → List Char) (l : List α) {rest : List Char} (stops : Stops rest) :
    Stops ((l.flatMap fun a => ',' :: put a) ++ rest) := by
  cases l with
  | nil => exact stops
  | cons a l =>
    rintro c ⟨⟩
    exact .inl rfl

theorem items_stop {first : Bool} {cs rest : List Char} (found : next first cs = .ok (false, rest))
    (clock : List Char) : items next one clock first cs = .ok ([], rest) := by
  cases clock <;> simp [items, found, bind, Except.bind]

/-- An item is read in front of the later ones. -/
theorem items_step {first : Bool} {cs here behind rest ticks : List Char} {a : α} {l : List α}
    (found : next first cs = .ok (true, here)) (read : one here = .ok (a, behind))
    (later : items next one ticks false behind = .ok (l, rest)) (tick : Char) :
    items next one (tick :: ticks) first cs = .ok (a :: l, rest) := by
  simp [items, found, read, later, bind, Except.bind]

variable (ends : ∀ first rest, next first (shut ++ mark :: rest) = .ok (false, mark :: rest))
  (closes : ∀ rest, Stops (shut ++ mark :: rest)) {l : List α}
  (each : ∀ a ∈ l, Reads next one gap put a)

include ends closes each

/-- The items behind the first, each behind a comma. -/
theorem items_further {clock : List Char} (rest : List Char) (time : l.length ≤ clock.length) :
    items next one clock false
      ((l.flatMap fun a => ',' :: (gap ++ put a)) ++ (shut ++ mark :: rest)) =
        .ok (l, mark :: rest) := by
  induction l generalizing clock with
  | nil => exact items_stop (ends false rest) clock
  | cons a l ih =>
    cases clock with
    | nil => simp at time
    | cons tick ticks =>
      obtain ⟨here, later⟩ := List.forall_mem_cons.1 each
      have time' : l.length ≤ ticks.length := by simpa using time
      have read := here.item _ (stops_further (fun a => gap ++ put a) l (closes rest))
      rw [List.flatMap_cons, List.append_assoc, List.cons_append, List.append_assoc]
      exact items_step (here.goesOn _) read (ih later time') tick

/-- All items of a container, up to its closing mark. -/
theorem items_joined {clock : List Char} (rest : List Char) (time : l.length ≤ clock.length) :
    items next one clock true (joined (fun a => gap ++ put a) l ++ (shut ++ mark :: rest)) =
      .ok (l, mark :: rest) := by
  cases l with
  | nil => exact items_stop (ends true rest) clock
  | cons a l =>
    cases clock with
    | nil => simp at time
    | cons tick ticks =>
      obtain ⟨here, later⟩ := List.forall_mem_cons.1 each
      have time' : l.length ≤ ticks.length := by simpa using time
      have read := here.item _ (stops_further (fun a => gap ++ put a) l (closes rest))
      rw [joined, List.append_assoc, List.append_assoc]
      exact items_step (here.begins _) read (items_further ends closes later rest time') tick

end Items

/-! ### Values -/

/-- How the text of a value begins: with no space, and with no closing bracket. -/
def Begins (cs : List Char) : Prop := ∃ c rest, cs = c :: rest ∧ isSpace c = false ∧ c ≠ ']'

theorem skipSpace_cons {c : Char} (dark : isSpace c = false) (rest : List Char) :
    skipSpace (c :: rest) = c :: rest := by
  simp [skipSpace, dark]

/-- What stands between tokens and counts for nothing. -/
def IsGap (cs : List Char) : Prop := ∀ c ∈ cs, isSpace c = true

theorem skipSpace_gap {gap : List Char} (spaces : IsGap gap) (rest : List Char) :
    skipSpace (gap ++ rest) = skipSpace rest :=
  List.dropWhile_append_of_pos spaces

theorem value_gap {gap : List Char} (spaces : IsGap gap) (depth : Nat) (rest : List Char) :
    value depth (gap ++ rest) = value depth rest := by
  rw [value, value, skipSpace_gap spaces]

section Containers

variable {gap shut : List Char} {put : Json → List Char} {one : List Char → Reading Json}
  {depth : Nat}

/-- An element of a list is read back if its value is. -/
theorem nextElement_reads (spaces : IsGap gap) {j : Json} (begins : Begins (put j))
    (read : ∀ rest, Stops rest → one (put j ++ rest) = .ok (j, rest)) :
    Reads nextElement one gap put j := by
  obtain ⟨c, behind, text, dark, other⟩ := begins
  have here (rest : List Char) :
      skipSpace (gap ++ (c :: (behind ++ rest))) = c :: (behind ++ rest) := by
    rw [skipSpace_gap spaces, skipSpace_cons dark]
  have comma (rest : List Char) : skipSpace (',' :: rest) = ',' :: rest := rfl
  refine ⟨fun rest => ?_, fun rest => ?_, read⟩
  · rw [text, List.cons_append]
    simp [nextElement, here]
  · rw [text, List.cons_append]
    simp [nextElement, comma, here, other]

theorem nextElement_end (spaces : IsGap shut) (first : Bool) (rest : List Char) :
    nextElement first (shut ++ ']' :: rest) = .ok (false, ']' :: rest) := by
  rw [nextElement, skipSpace_gap spaces]
  rfl

theorem nextKey_end (spaces : IsGap shut) (first : Bool) (rest : List Char) :
    nextKey first (shut ++ '\x7d' :: rest) = .ok (false, '\x7d' :: rest) := by
  rw [nextKey, skipSpace_gap spaces]
  rfl

/-- A member of an object is read back if its value is. -/
theorem nextKey_reads {space : List Char} (spaces : IsGap gap)
    (blank : ∀ rest, one (space ++ rest) = one rest) {e : String × Json}
    (read : ∀ rest, Stops rest → one (put e.2 ++ rest) = .ok (e.2, rest)) :
    Reads nextKey (member one) gap (memberText space put) e := by
  have begins (rest : List Char) : ∃ tail, memberText space put e ++ rest = '"' :: tail := ⟨_, rfl⟩
  have here (tail : List Char) : skipSpace (gap ++ '"' :: tail) = '"' :: tail :=
    skipSpace_gap spaces _
  have comma (rest : List Char) : skipSpace (',' :: rest) = ',' :: rest := rfl
  refine ⟨fun rest => ?_, fun rest => ?_, fun rest stops => ?_⟩
  · obtain ⟨tail, text⟩ := begins rest
    simp [text, nextKey, here]
  · obtain ⟨tail, text⟩ := begins rest
    simp [text, nextKey, comma, here]
  · have key := text_written e.1 (':' :: (space ++ (put e.2 ++ rest)))
    have behind : colon (':' :: (space ++ (put e.2 ++ rest))) =
        .ok ((), space ++ (put e.2 ++ rest)) := rfl
    have inside : ((memberText space put e ++ rest).drop 1) =
        e.1.toList.flatMap escapeChar ++ '"' :: ':' :: (space ++ (put e.2 ++ rest)) := by
      simp [memberText, writeText]
    simp [member, inside, key, behind, blank, read rest stops, bind, Except.bind]

/-- The elements of a list, up to and with its closing bracket. -/
theorem closing_elements {l : List Json} (spaces : IsGap shut)
    (closes : ∀ rest, Stops (shut ++ ']' :: rest)) (each : ∀ j ∈ l, Reads nextElement one gap put j)
    (filled : ∀ j ∈ l, put j ≠ []) (rest : List Char) :
    closing closeList (elements one (joined (fun j => gap ++ put j) l ++ (shut ++ ']' :: rest))) =
      .ok (l, rest) := by
  have filled' : ∀ j ∈ l, gap ++ put j ≠ [] := fun j member nothing =>
    filled j member (List.append_eq_nil_iff.1 nothing).2
  have time := length_joined filled'
  have content : elements one (joined (fun j => gap ++ put j) l ++ (shut ++ ']' :: rest)) =
      .ok (l, ']' :: rest) := by
    refine items_joined (nextElement_end spaces) closes each rest ?_
    rw [List.length_append]
    omega
  have shuts : closeList (']' :: rest) = (none, rest) := rfl
  simp only [content, closing, shuts]

/-- The members of an object, up to and with its closing brace. -/
theorem closing_members {fields : Fields} {space : List Char} (spaces : IsGap shut)
    (closes : ∀ rest, Stops (shut ++ '\x7d' :: rest))
    (each : ∀ e ∈ fields, Reads nextKey (member one) gap (memberText space put) e)
    (rest : List Char) :
    closing closeObject (members one
      (joined (fun e => gap ++ memberText space put e) fields ++ (shut ++ '\x7d' :: rest))) =
        .ok (fields, rest) := by
  have filled : ∀ e ∈ fields, gap ++ memberText space put e ≠ [] := by
    intro e _
    simp [memberText, writeText]
  have time := length_joined filled
  have content : members one
      (joined (fun e => gap ++ memberText space put e) fields ++ (shut ++ '\x7d' :: rest)) =
        .ok (fields, '\x7d' :: rest) := by
    refine items_joined (nextKey_end spaces) closes each rest ?_
    rw [List.length_append]
    omega
  have shuts : closeObject ('\x7d' :: rest) = (none, rest) := rfl
  simp only [content, closing, shuts]

/-- A list is read back if its elements are. -/
theorem value_array {l : List Json} (spaces : IsGap shut)
    (closes : ∀ rest, Stops (shut ++ ']' :: rest))
    (each : ∀ j ∈ l, Reads nextElement (value depth) gap put j) (filled : ∀ j ∈ l, put j ≠ [])
    (rest : List Char) :
    value (depth + 1) ('[' :: (joined (fun j => gap ++ put j) l ++ (shut ++ ']' :: rest))) =
      .ok (.array l, rest) := by
  rw [value, skipSpace_cons rfl]
  simp only [closing_elements spaces closes each filled rest, Except.map]

/-- An object with its keys named once is read back if its members are. -/
theorem value_object {fields : Fields} {space : List Char} (once : (fields.map (·.1)).Nodup)
    (spaces : IsGap shut) (closes : ∀ rest, Stops (shut ++ '\x7d' :: rest))
    (each : ∀ e ∈ fields, Reads nextKey (member (value depth)) gap (memberText space put) e)
    (rest : List Char) :
    value (depth + 1) ('\x7b' ::
      (joined (fun e => gap ++ memberText space put e) fields ++ (shut ++ '\x7d' :: rest))) =
        .ok (.object fields, rest) := by
  rw [value, skipSpace_cons rfl]
  simp only [closing_members spaces closes each rest, Except.map, objectOf_of_nodup once]

end Containers

theorem stops_mark {mark : Char} (closes : mark = ']' ∨ mark = '\x7d') (rest : List Char) :
    Stops (mark :: rest) := by
  rintro c ⟨⟩
  exact .inr (closes.imp_right .inl)

/-- Where neither a list nor an object begins, a value is a scalar. -/
theorem value_of_scalar {c : Char} (dark : isSpace c = false) (bracket : c ≠ '[')
    (brace : c ≠ '\x7b') (depth : Nat) (rest : List Char) :
    value depth (c :: rest) = scalar (c :: rest) := by
  rw [value, skipSpace_cons dark]
  split
  · next h => exact absurd (List.cons.inj h).1 bracket
  · next h => exact absurd (List.cons.inj h).1 brace
  · rfl

/-- How a numeral begins nothing else does. -/
theorem ne_of_sign {c c' : Char} (sign : c = '-' ∨ isDigit c = true) (other : '-' ≠ c')
    (digitless : isDigit c' = false) : c ≠ c' := by
  rcases sign with rfl | digit
  · exact other
  · exact ne_of_isDigit digit digitless

theorem isSpace_of_sign {c : Char} (sign : c = '-' ∨ isDigit c = true) : isSpace c = false := by
  have other (c' : Char) (here : '-' ≠ c') (digitless : isDigit c' = false) : (c == c') = false :=
    beq_eq_false_iff_ne.2 (ne_of_sign sign here digitless)
  simp only [isSpace, other ' ' (by decide) rfl, other '\n' (by decide) rfl,
    other '\t' (by decide) rfl, other '\r' (by decide) rfl, Bool.or_false]

/-- A value that is neither a list nor an object. -/
def IsScalar : Json → Prop
  | .array _ => False
  | .object _ => False
  | _ => True

/-- The text of a scalar begins a value. -/
theorem begins_writeScalar {depth : Nat} {j : Json} (h : Exact depth j) (plain : IsScalar j) :
    Begins (writeScalar j) := by
  cases h with
  | null => exact ⟨'n', _, rfl, rfl, by decide⟩
  | bool b => cases b <;> exact ⟨_, _, rfl, rfl, by decide⟩
  | integer fits =>
    obtain ⟨c, rest, text, sign⟩ := begins_numeral _
    exact ⟨c, rest, text, isSpace_of_sign sign, ne_of_sign sign (by decide) rfl⟩
  | string s => exact ⟨'"', _, rfl, rfl, by decide⟩
  | array inside => exact plain.elim
  | object once inside => exact plain.elim

/-- The text of a scalar is read as the scalar. -/
theorem value_writeScalar {depth : Nat} {j : Json} (h : Exact depth j) (plain : IsScalar j)
    {rest : List Char} (stops : Stops rest) :
    value depth (writeScalar j ++ rest) = .ok (j, rest) := by
  cases h with
  | null => exact value_of_scalar rfl (by decide) (by decide) _ _
  | bool b => cases b <;> exact value_of_scalar rfl (by decide) (by decide) _ _
  | @integer _ n fits =>
    obtain ⟨c, behind, text, sign⟩ := begins_numeral n
    have read := scalar_numeral fits stops
    have written : writeScalar (.integer n) = c :: behind := text
    rw [text, List.cons_append] at read
    rw [written, List.cons_append, value_of_scalar (isSpace_of_sign sign)
      (ne_of_sign sign (by decide) rfl) (ne_of_sign sign (by decide) rfl), read]
  | string s =>
    have read := text_written s rest
    have written : writeScalar (.string s) ++ rest =
        '"' :: (s.toList.flatMap escapeChar ++ '"' :: rest) := by
      simp [writeScalar, writeText]
    rw [written, value_of_scalar rfl (by decide) (by decide)]
    simp [scalar, read, Except.map]
  | array inside => exact plain.elim
  | object once inside => exact plain.elim

theorem Begins.ne_nil {cs : List Char} (begins : Begins cs) : cs ≠ [] := by
  obtain ⟨c, rest, rfl, -⟩ := begins
  exact List.cons_ne_nil c rest

theorem Exact.begins {depth : Nat} {j : Json} (h : Exact depth j) : Begins (write j) := by
  cases j with
  | array items => exact ⟨'[', _, rfl, rfl, by decide⟩
  | object fields => exact ⟨'\x7b', _, rfl, rfl, by decide⟩
  | _ => exact begins_writeScalar h trivial

/-- The text of a value is read as the value, and nothing behind it. -/
theorem value_write {depth : Nat} {j : Json} (h : Exact depth j) (rest : List Char)
    (stops : Stops rest) : value depth (write j ++ rest) = .ok (j, rest) := by
  have noGap : IsGap [] := nofun
  induction h generalizing rest with
  | null => exact value_writeScalar .null trivial stops
  | bool b => exact value_writeScalar (.bool b) trivial stops
  | integer fits => exact value_writeScalar (.integer fits) trivial stops
  | string s => exact value_writeScalar (.string s) trivial stops
  | @array _ l inside ih =>
    have text : write (.array l) ++ rest =
        '[' :: (joined (fun j => [] ++ write j) l ++ ([] ++ ']' :: rest)) := by
      simp [write, writeElements_eq_joined]
    rw [text]
    refine value_array noGap (stops_mark (.inl rfl)) (fun j member => ?_)
      (fun j member => (inside j member).begins.ne_nil) rest
    exact nextElement_reads noGap (inside j member).begins (ih j member)
  | @object _ fields once inside ih =>
    have members : joined (fun e => [] ++ memberText [] write e) fields = writeMembers fields :=
      (writeMembers_eq_joined fields).symm
    have text : write (.object fields) ++ rest =
        '\x7b' :: (joined (fun e => [] ++ memberText [] write e) fields ++ ([] ++ '\x7d' :: rest)) := by
      rw [members]
      simp [write]
    rw [text]
    exact value_object once noGap (stops_mark (.inr rfl))
      (fun e member => nextKey_reads noGap (value_gap noGap _) (ih e member)) rest

/-- The text of a value on one line is read as the value. -/
theorem read_compact {j : Json} (h : Exact nestings j) : read (compact j) = .ok j := by
  have begins := value_write h [] (by rintro c ⟨⟩)
  rw [List.append_nil] at begins
  rw [read, compact, String.toList_ofList, whole, begins]
  rfl

/-- Joined texts can be printed if each of them can. -/
theorem printable_joined {α : Type} {put : α → List Char} {l : List α}
    (each : ∀ a ∈ l, Printable (put a)) : Printable (joined put l) := by
  cases l with
  | nil => exact nofun
  | cons a l =>
    obtain ⟨here, later⟩ := List.forall_mem_cons.1 each
    refine here.append fun c member => ?_
    obtain ⟨a', inside, text⟩ := List.mem_flatMap.1 member
    exact Printable.cons (by decide) (later a' inside) c text

/-- The text of a value has no control character in it, so it is one line. -/
theorem printable_write {depth : Nat} {j : Json} (h : Exact depth j) : Printable (write j) := by
  induction h with
  | null => decide
  | bool b => cases b <;> decide
  | integer fits => exact printable_numeral _
  | string s => exact printable_writeText s
  | array inside ih =>
    rw [write, writeElements_eq_joined]
    exact .cons (by decide) ((printable_joined ih).append (.cons (by decide) nofun))
  | object once inside ih =>
    rw [write, writeMembers_eq_joined]
    refine .cons (by decide) ((printable_joined fun e member => ?_).append (.cons (by decide) nofun))
    exact (printable_writeText e.1).append (.cons (by decide) (ih e member))

end DataShelf.Json
