import DataShelf.Proofs.CatalogInvariant
import DataShelf.Proofs.StatementQuoting
import Mathlib.Data.List.DropRight

/-!
# What is selected from a script

A view selects from the text of a script, less what means nothing around it: white space in front,
and white space and semicolons behind (`bareScript`). The three trims of `scriptBody` take away one
run of semicolons. They leave the bare text exactly if no white space stands between semicolons at
the end of the script, and a semicolon behind it otherwise (`script_views_bare_iff`).
-/

namespace DataShelf.Text
set_option autoImplicit false

/-! ### Dropping at the end -/

section DropEnd

variable {p : Char → Bool} {front back cs : List Char} {c : Char}

theorem dropEndWhile_eq_rdropWhile (p : Char → Bool) (cs : List Char) :
    dropEndWhile p cs = cs.rdropWhile p :=
  rfl

/-- A character that stays keeps all in front of it. -/
theorem dropEndWhile_append_cons (stays : p c = false) :
    dropEndWhile p (front ++ c :: back) = front ++ c :: dropEndWhile p back := by
  simp only [dropEndWhile_eq_rdropWhile]
  induction back using List.reverseRecOn with
  | nil => simp [stays]
  | append_singleton back d ih =>
    have shift : front ++ c :: (back ++ [d]) = (front ++ c :: back) ++ [d] := by simp
    rw [shift, List.rdropWhile_concat, List.rdropWhile_concat, ih]
    split <;> simp

/-- What goes makes no difference. -/
theorem dropEndWhile_append_of_forall (goes : ∀ c ∈ back, p c) :
    dropEndWhile p (front ++ back) = dropEndWhile p front := by
  simp only [dropEndWhile_eq_rdropWhile]
  induction back using List.reverseRecOn with
  | nil => simp
  | append_singleton back d ih =>
    rw [← List.append_assoc, List.rdropWhile_concat_pos _ _ _ (goes d (by simp))]
    exact ih fun c member => goes c (List.mem_append_left _ member)

theorem exists_dropEndWhile_append (p : Char → Bool) (cs : List Char) :
    ∃ back, cs = dropEndWhile p cs ++ back ∧ ∀ c ∈ back, p c :=
  ⟨cs.rtakeWhile p, List.rdropWhile_append_rtakeWhile.symm, fun _ => List.mem_rtakeWhile_imp⟩

/-- The last character that is left stays. -/
theorem getLast?_dropEndWhile (last : (dropEndWhile p cs).getLast? = some c) : p c = false := by
  have filled : dropEndWhile p cs ≠ [] := fun empty => by simp [empty] at last
  rw [List.getLast?_eq_some_getLast filled] at last
  have stays : ¬p ((dropEndWhile p cs).getLast filled) := List.rdropWhile_last_not p cs filled
  rw [Option.some.inj last] at stays
  exact eq_false_of_ne_true stays

/-- Nothing is dropped from an end that stays. -/
theorem dropEndWhile_eq_self (stays : ∀ c, cs.getLast? = some c → p c = false) :
    dropEndWhile p cs = cs := by
  refine List.rdropWhile_eq_self_iff.2 fun filled => ?_
  simp [stays _ (List.getLast?_eq_some_getLast filled)]

theorem dropEndWhile_sublist (p : Char → Bool) (cs : List Char) : (dropEndWhile p cs).Sublist cs :=
  (List.rdropWhile_prefix p cs).sublist

end DropEnd

/-! ### Dropping in front -/

theorem exists_trimStart_append (cs : List Char) :
    ∃ lead, cs = lead ++ trimStart cs ∧ ∀ c ∈ lead, isBlank c :=
  ⟨cs.takeWhile isBlank, List.takeWhile_append_dropWhile.symm, fun _ => List.mem_takeWhile_imp⟩

/-- A character that stays keeps all behind it. -/
theorem exists_trimStart_append_cons (front back : List Char) {c : Char}
    (stays : isBlank c = false) :
    ∃ rest, trimStart (front ++ c :: back) = rest ++ c :: back := by
  simp only [trimStart, List.dropWhile_append]
  split
  · exact ⟨[], by simp [stays]⟩
  · exact ⟨front.dropWhile isBlank, rfl⟩

/-- What is left does not begin with white space. -/
theorem head?_of_trimStart_eq {kept back cs : List Char} (left : trimStart cs = kept ++ back)
    {c : Char} (head : kept.head? = some c) : isBlank c = false := by
  have first : (cs.dropWhile isBlank).head? = some c := by
    show (trimStart cs).head? = some c
    rw [left, List.head?_append]
    exact Option.or_eq_some_iff.2 (.inl head)
  have dark := List.head?_dropWhile_not isBlank cs
  rw [first] at dark
  exact dark

/-- Nothing is trimmed from a front that is not blank. -/
theorem trimStart_eq_self {cs : List Char} (dark : ∀ c, cs.head? = some c → isBlank c = false) :
    trimStart cs = cs := by
  cases cs with
  | nil => rfl
  | cons c cs => simp [trimStart, dark c rfl]

end DataShelf.Text

namespace DataShelf.Query
set_option autoImplicit false

open Catalog (Table viewName)
open Files (FileTree)

/-! ### Bodies and bare texts -/

/-- White space and semicolons, which mean nothing at the end of a script. -/
def isLoose (c : Char) : Bool := Text.isBlank c || c == ';'

/-- A text without white space in front and without white space and semicolons behind. -/
def bare (cs : List Char) : List Char := Text.dropEndWhile isLoose (Text.trimStart cs)

/-- What the trims of a script leave of a text. -/
def body (cs : List Char) : List Char :=
  Text.trimEnd (Text.dropEndWhile (· == ';') (Text.trim cs))

/-- White space stands between semicolons at the end of a text. -/
def Scattered (cs : List Char) : Prop :=
  ∃ front gap back, cs = front ++ ';' :: (gap ++ ';' :: back) ∧ gap ≠ [] ∧
    (∀ c ∈ gap, Text.isBlank c) ∧ ∀ c ∈ back, isLoose c

theorem toList_scriptBody (script : String) : (scriptBody script).toList = body script.toList :=
  String.toList_ofList

section Body

variable {cs : List Char} {c : Char}

theorem isLoose_of_isBlank (blank : Text.isBlank c) : isLoose c := by
  simp [isLoose, blank]

theorem eq_semicolon_of_isLoose (loose : isLoose c) (dark : Text.isBlank c = false) : c = ';' := by
  simpa [isLoose, dark] using loose

theorem getLast?_bare (last : (bare cs).getLast? = some c) : isLoose c = false :=
  Text.getLast?_dropEndWhile last

theorem head?_bare (head : (bare cs).head? = some c) : Text.isBlank c = false := by
  obtain ⟨back, start, -⟩ := Text.exists_dropEndWhile_append isLoose (Text.trimStart cs)
  exact Text.head?_of_trimStart_eq start head

theorem getLast?_body (last : (body cs).getLast? = some c) : Text.isBlank c = false :=
  Text.getLast?_dropEndWhile last

/-- What the trims take away behind the body: white space, semicolons and white space. The
semicolons end there, and so does the white space behind them. -/
theorem exists_body_append (cs : List Char) :
    ∃ lead gap semicolons back, cs = lead ++ body cs ++ gap ++ semicolons ++ back ∧
      Text.trimStart cs = body cs ++ (gap ++ semicolons ++ back) ∧
      (∀ c ∈ gap, Text.isBlank c) ∧ (∀ c ∈ semicolons, c = ';') ∧ (∀ c ∈ back, Text.isBlank c) ∧
      (body cs ++ gap).getLast? ≠ some ';' ∧
      ∀ c, (body cs ++ gap ++ semicolons).getLast? = some c → Text.isBlank c = false := by
  obtain ⟨lead, whole, -⟩ := Text.exists_trimStart_append cs
  obtain ⟨back, trimmed, behind⟩ :=
    Text.exists_dropEndWhile_append Text.isBlank (Text.trimStart cs)
  obtain ⟨semicolons, cut, only⟩ := Text.exists_dropEndWhile_append (· == ';') (Text.trim cs)
  obtain ⟨gap, rest, between⟩ :=
    Text.exists_dropEndWhile_append Text.isBlank (Text.dropEndWhile (· == ';') (Text.trim cs))
  have inner : body cs ++ gap = Text.dropEndWhile (· == ';') (Text.trim cs) := rest.symm
  have outer : body cs ++ gap ++ semicolons = Text.trim cs := by rw [inner, ← cut]
  have start : Text.trimStart cs = body cs ++ (gap ++ semicolons ++ back) := by
    calc Text.trimStart cs = Text.trim cs ++ back := trimmed
      _ = body cs ++ (gap ++ semicolons ++ back) := by rw [← outer]; simp only [List.append_assoc]
  refine ⟨lead, gap, semicolons, back, ?_, start, between, fun c member => by simpa using only c member,
    behind, ?_, ?_⟩
  · calc cs = lead ++ Text.trimStart cs := whole
      _ = lead ++ body cs ++ gap ++ semicolons ++ back := by
        rw [start]
        simp only [List.append_assoc]
  · intro last
    rw [inner] at last
    simpa using Text.getLast?_dropEndWhile last
  · intro c last
    rw [outer] at last
    exact Text.getLast?_dropEndWhile last

/-- The body is bare but for what is loose at its end. -/
theorem bare_eq (cs : List Char) : bare cs = Text.dropEndWhile isLoose (body cs) := by
  obtain ⟨-, gap, semicolons, back, -, start, between, only, behind, -⟩ := exists_body_append cs
  rw [bare, start]
  apply Text.dropEndWhile_append_of_forall
  intro c member
  rcases List.mem_append.1 member with inner | inner
  · rcases List.mem_append.1 inner with blank | semicolon
    · exact isLoose_of_isBlank (between c blank)
    · rw [only c semicolon]
      rfl
  · exact isLoose_of_isBlank (behind c inner)

/-- Of a scattered text the first trim reaches the last semicolon, the second the white space before
it, and the third no further than the semicolon before that. -/
theorem exists_body_of_scattered (scattered : Scattered cs) :
    ∃ front rest, body cs = front ++ ';' :: rest ∧ ∀ c ∈ rest, isLoose c := by
  obtain ⟨front, gap, back, rfl, gapped, between, loose⟩ := scattered
  obtain ⟨g, gap, rfl⟩ := List.exists_cons_of_ne_nil gapped
  have blank : Text.isBlank g := between g List.mem_cons_self
  have other : (g == ';') = false := beq_false_of_ne (by rintro rfl; cases blank)
  obtain ⟨begun, start⟩ := Text.exists_trimStart_append_cons front (g :: gap ++ ';' :: back)
    (show Text.isBlank ';' = false from rfl)
  have trimmed : Text.trim (front ++ ';' :: (g :: gap ++ ';' :: back)) =
      (begun ++ [';']) ++ g :: (gap ++ ';' :: Text.trimEnd back) := by
    have apart : begun ++ ';' :: (g :: gap ++ ';' :: back) =
        (begun ++ ';' :: g :: gap) ++ ';' :: back := by simp
    rw [Text.trim, start, apart, Text.trimEnd, Text.dropEndWhile_append_cons rfl]
    simp [Text.trimEnd]
  refine ⟨begun, Text.trimEnd
    (g :: Text.dropEndWhile (· == ';') (gap ++ ';' :: Text.trimEnd back)), ?_, ?_⟩
  · rw [body, trimmed, Text.dropEndWhile_append_cons (p := (· == ';')) other, List.append_assoc,
      List.singleton_append, Text.trimEnd, Text.dropEndWhile_append_cons rfl]
    rfl
  · intro c member
    rcases List.mem_cons.1 ((Text.dropEndWhile_sublist _ _).subset member) with rfl | member
    · exact isLoose_of_isBlank blank
    rcases List.mem_append.1 ((Text.dropEndWhile_sublist _ _).subset member) with member | member
    · exact isLoose_of_isBlank (between c (List.mem_cons_of_mem _ member))
    rcases List.mem_cons.1 member with rfl | member
    · rfl
    · exact loose c ((Text.dropEndWhile_sublist _ _).subset member)

/-- A semicolon is left at the end of the body exactly if the text is scattered. -/
theorem getLast?_body_iff : (body cs).getLast? = some ';' ↔ Scattered cs := by
  constructor
  · intro last
    obtain ⟨lead, gap, semicolons, back, whole, -, between, only, behind, ends, dark⟩ :=
      exists_body_append cs
    obtain ⟨front, text⟩ := List.getLast?_eq_some_iff.1 last
    have gapped : gap ≠ [] := by
      rintro rfl
      exact ends (by simpa using last)
    have further : semicolons ≠ [] := by
      rintro rfl
      obtain ⟨gap, c, rfl⟩ := List.eq_nil_or_concat' gap |>.resolve_left gapped
      have blank := between c (by simp)
      rw [dark c (by simp [← List.append_assoc])] at blank
      cases blank
    obtain ⟨c, semicolons, rfl⟩ := List.exists_cons_of_ne_nil further
    obtain rfl := only c List.mem_cons_self
    refine ⟨lead ++ front, gap, semicolons ++ back, ?_, gapped, between, ?_⟩
    · rw [text] at whole
      simpa using whole
    · intro c member
      rcases List.mem_append.1 member with semicolon | blank
      · rw [only c (List.mem_cons_of_mem _ semicolon)]
        rfl
      · exact isLoose_of_isBlank (behind c blank)
  · intro scattered
    obtain ⟨front, rest, left, loose⟩ := exists_body_of_scattered scattered
    obtain ⟨c, last⟩ : ∃ c, (';' :: rest).getLast? = some c :=
      ⟨_, List.getLast?_eq_some_getLast (List.cons_ne_nil _ _)⟩
    have ends : (body cs).getLast? = some c := by
      rw [left, List.getLast?_append_of_ne_nil _ (List.cons_ne_nil _ _), last]
    rcases List.mem_cons.1 (List.mem_of_getLast? last) with rfl | member
    · exact ends
    · rw [ends, eq_semicolon_of_isLoose (loose c member) (getLast?_body ends)]

/-- A text that is not scattered is left bare. -/
theorem body_of_not_scattered (joint : ¬Scattered cs) : body cs = bare cs := by
  rw [bare_eq]
  refine (Text.dropEndWhile_eq_self fun c last => ?_).symm
  by_contra loose
  have semicolon := eq_semicolon_of_isLoose (eq_true_of_ne_false loose) (getLast?_body last)
  exact joint (getLast?_body_iff.1 (semicolon ▸ last))

/-- Behind the bare text of one that is scattered a semicolon is left. -/
theorem body_of_scattered (scattered : Scattered cs) :
    ∃ left, body cs = bare cs ++ left ++ [';'] ∧ ∀ c ∈ left, isLoose c := by
  have last := getLast?_body_iff.2 scattered
  obtain ⟨back, whole, loose⟩ := Text.exists_dropEndWhile_append isLoose (body cs)
  rw [← bare_eq] at whole
  have filled : back ≠ [] := by
    rintro rfl
    rw [whole, List.append_nil] at last
    exact absurd (getLast?_bare last) (by decide)
  obtain ⟨left, c, rfl⟩ := (List.eq_nil_or_concat' back).resolve_left filled
  rw [whole, ← List.append_assoc, List.getLast?_concat] at last
  obtain rfl := Option.some.inj last
  exact ⟨left, by simpa using whole, fun c member => loose c (by simp [member])⟩

/-- A bare text is all body. -/
theorem body_bare (cs : List Char) : body (bare cs) = bare cs := by
  have begun : Text.trimStart (bare cs) = bare cs := Text.trimStart_eq_self fun _ => head?_bare
  have stays (c : Char) (last : (bare cs).getLast? = some c) :
      Text.isBlank c = false ∧ (c == ';') = false := by
    simpa [isLoose] using getLast?_bare last
  have trimmed : Text.trimEnd (bare cs) = bare cs :=
    Text.dropEndWhile_eq_self fun c last => (stays c last).1
  have cut : Text.dropEndWhile (· == ';') (bare cs) = bare cs :=
    Text.dropEndWhile_eq_self fun c last => (stays c last).2
  rw [body, Text.trim, begun, trimmed, cut, trimmed]

/-- A text that is all body does not end in a semicolon, for the second trim would take it away. -/
theorem getLast?_of_body_eq (same : body cs = cs) : cs.getLast? ≠ some ';' := by
  intro last
  have behind : (body cs).Sublist (Text.dropEndWhile (· == ';') (Text.trim cs)) :=
    Text.dropEndWhile_sublist _ _
  have inFront : (Text.trim cs).Sublist cs :=
    (Text.dropEndWhile_sublist _ _).trans (List.dropWhile_sublist _)
  have whole : Text.dropEndWhile (· == ';') (Text.trim cs) = cs := by
    refine (((Text.dropEndWhile_sublist _ _).trans inFront).antisymm ?_)
    rwa [same] at behind
  rw [← whole] at last
  exact absurd (Text.getLast?_dropEndWhile last) (by decide)

/-- Trimming again changes nothing exactly where the first trims have left a bare text. -/
theorem body_body_iff : body (body cs) = body cs ↔ ¬Scattered cs := by
  constructor
  · intro same scattered
    exact getLast?_of_body_eq same (getLast?_body_iff.2 scattered)
  · intro joint
    rw [body_of_not_scattered joint, body_bare]

/-- Nothing is left of a script of blanks and semicolons, and of no other. -/
theorem bare_eq_nil_iff : bare cs = [] ↔ ∀ c ∈ cs, isLoose c := by
  obtain ⟨lead, whole, blank⟩ := Text.exists_trimStart_append cs
  rw [bare, Text.dropEndWhile_eq_rdropWhile, List.rdropWhile_eq_nil_iff]
  constructor
  · intro loose c member
    rw [whole] at member
    rcases List.mem_append.1 member with front | rest
    · exact isLoose_of_isBlank (blank c front)
    · exact loose c rest
  · intro loose c member
    exact loose c ((List.dropWhile_sublist _).subset member)

/-- What a bare text is: the text without white space in front and without its longest end of white
space and semicolons. -/
theorem exists_bare_append (cs : List Char) :
    ∃ lead back, cs = lead ++ bare cs ++ back ∧ (∀ c ∈ lead, Text.isBlank c) ∧
      ∀ c ∈ back, isLoose c := by
  obtain ⟨lead, whole, blank⟩ := Text.exists_trimStart_append cs
  obtain ⟨back, start, loose⟩ := Text.exists_dropEndWhile_append isLoose (Text.trimStart cs)
  refine ⟨lead, back, ?_, blank, loose⟩
  calc cs = lead ++ Text.trimStart cs := whole
    _ = lead ++ (bare cs ++ back) := congrArg (lead ++ ·) start
    _ = lead ++ bare cs ++ back := (List.append_assoc _ _ _).symm

end Body

/-! ### Statements -/

/-- A script without what means nothing around it. -/
def bareScript (script : String) : String := String.ofList (bare script.toList)

/-- What is said of a script with nothing in it. -/
def emptyScript (table : Table) : QueryError :=
  .execution ("SQL script is empty: " ++ table.dataFile.display)

/-- The statement that selects from a bare script. There is none if the script is white space and
semicolons only. -/
def bareView (source : String) (table : Table) (script : String) : Except QueryError String :=
  if script.toList.all isLoose then .error (emptyScript table)
  else
    .ok ("CREATE VIEW " ++ Sql.identifier (viewName source table.name) ++ " AS " ++
      bareScript script)

theorem toList_bareScript (script : String) : (bareScript script).toList = bare script.toList :=
  String.toList_ofList

/-- The body of a script is bare exactly if no blanks lie scattered among its last semicolons. -/
theorem scriptBody_eq_bareScript_iff {script : String} :
    scriptBody script = bareScript script ↔ ¬Scattered script.toList := by
  rw [← String.toList_inj, toList_scriptBody, toList_bareScript]
  constructor
  · intro same scattered
    have last := getLast?_body_iff.2 scattered
    rw [same] at last
    exact absurd (getLast?_bare last) (by decide)
  · exact body_of_not_scattered

/-- Nothing is left of a text of blanks and semicolons, and of no other. -/
theorem bareScript_eq_empty_iff {script : String} :
    bareScript script = "" ↔ ∀ c ∈ script.toList, isLoose c := by
  rw [← String.toList_inj, toList_bareScript]
  exact bare_eq_nil_iff

section View

variable {t : FileTree} {source : String} {table : Table} {script : String}

/-- The statement for a script selects from its body, if there is any. -/
theorem viewStatement_of_script (kind : table.kind = .sqlScript)
    (read : t.readText table.dataFile = .ok script) :
    viewStatement t source table =
      if scriptBody script = "" then .error (emptyScript table)
      else .ok ("CREATE VIEW " ++ Sql.identifier (viewName source table.name) ++ " AS " ++
        scriptBody script) := by
  simp [viewStatement, kind, read, emptyScript, createView_eq]

/-- The view of a bare script has the script behind the name of the view, unless nothing is left of
it. -/
theorem bareView_eq (source : String) (table : Table) (script : String) :
    bareView source table script =
      if bareScript script = "" then .error (emptyScript table)
      else .ok ("CREATE VIEW " ++ Sql.identifier (viewName source table.name) ++ " AS " ++
        bareScript script) := by
  simp only [bareView, bareScript_eq_empty_iff, List.all_eq_true]

/-- The view of a script is that of the bare script exactly if its body is. -/
theorem viewStatement_eq_bareView_iff (kind : table.kind = .sqlScript)
    (read : t.readText table.dataFile = .ok script) :
    viewStatement t source table = bareView source table script ↔
      scriptBody script = bareScript script := by
  rw [viewStatement_of_script kind read, bareView_eq]
  constructor
  · intro same
    split at same
    · next empty =>
      split at same
      · next empty' => exact empty.trans empty'.symm
      · cases same
    · split at same
      · cases same
      · exact (String.append_right_inj _).1 (Except.ok.inj same)
  · intro same
    rw [same]

/-- A scattered script is never taken for an empty one. -/
theorem viewStatement_of_scattered (kind : table.kind = .sqlScript)
    (read : t.readText table.dataFile = .ok script) (scattered : Scattered script.toList) :
    ∃ left : String, (∀ c ∈ left.toList, isLoose c) ∧
      viewStatement t source table =
        .ok ("CREATE VIEW " ++ Sql.identifier (viewName source table.name) ++ " AS " ++
          (bareScript script ++ left ++ ";")) := by
  obtain ⟨left, whole, loose⟩ := body_of_scattered scattered
  have text : scriptBody script = bareScript script ++ String.ofList left ++ ";" := by
    rw [← String.toList_inj, toList_scriptBody, whole]
    simp [toList_bareScript]
  have filled : scriptBody script ≠ "" := by
    intro empty
    have : body script.toList = [] := by rw [← toList_scriptBody, empty]; rfl
    simp [this] at whole
  refine ⟨String.ofList left, by simpa using loose, ?_⟩
  rw [viewStatement_of_script kind read, if_neg filled, text]

/-- **What is selected from a script.** The statement selects from the bare script, and a script of
nothing but white space and semicolons is refused, exactly if no white space stands between
semicolons at the end of the script. Where it does, the statement is made whatever the script is, and
ends in a semicolon. A bare script does not begin in white space and does not end in white space or a
semicolon, it is empty only if the script is nothing else, and trimming it changes nothing. -/
theorem script_views_bare_iff (kind : table.kind = .sqlScript)
    (read : t.readText table.dataFile = .ok script) :
    (viewStatement t source table = bareView source table script ↔ ¬Scattered script.toList) ∧
    (scriptBody (scriptBody script) = scriptBody script ↔ ¬Scattered script.toList) ∧
    (Scattered script.toList →
      ∃ left : String, (∀ c ∈ left.toList, isLoose c) ∧
        viewStatement t source table =
          .ok ("CREATE VIEW " ++ Sql.identifier (viewName source table.name) ++ " AS " ++
            (bareScript script ++ left ++ ";"))) ∧
    (∃ lead back, script.toList = lead ++ (bareScript script).toList ++ back ∧
      (∀ c ∈ lead, Text.isBlank c) ∧ ∀ c ∈ back, isLoose c) ∧
    (∀ c, (bareScript script).toList.head? = some c → Text.isBlank c = false) ∧
    (∀ c, (bareScript script).toList.getLast? = some c → isLoose c = false) ∧
    (bareScript script = "" ↔ ∀ c ∈ script.toList, isLoose c) ∧
    scriptBody (bareScript script) = bareScript script := by
  refine ⟨?_, ?_, viewStatement_of_scattered kind read, ?_, ?_, ?_, bareScript_eq_empty_iff, ?_⟩
  · rw [viewStatement_eq_bareView_iff kind read]
    exact scriptBody_eq_bareScript_iff
  · rw [← String.toList_inj, toList_scriptBody, toList_scriptBody]
    exact body_body_iff
  · rw [toList_bareScript]
    exact exists_bare_append script.toList
  · rw [toList_bareScript]
    exact fun c => head?_bare
  · rw [toList_bareScript]
    exact fun c => getLast?_bare
  · rw [← String.toList_inj, toList_scriptBody, toList_bareScript]
    exact body_bare script.toList

end View

/-- A directory of sales with a script of orders in it. -/
def scriptTree (script : String) : FileTree where
  root := .directory [(.ofString "sales", .directory [
    (.ofString "orders.sql", .file (Text.octets script))])]
  work := []

/-- The table of the script. -/
def scriptTable : Table := Table.of "orders" Catalog.ordersScript none []

theorem readText_scriptTree (script : String) :
    (scriptTree script).readText scriptTable.dataFile = .ok script := by
  have into : (scriptTree script).move [] (.ofString "sales") = .step [.ofString "sales"] := rfl
  have there : (scriptTree script).move [.ofString "sales"] (.ofString "orders.sql") =
      .step [.ofString "sales", .ofString "orders.sql"] := rfl
  have found : (scriptTree script).node Catalog.ordersScript =
      .ok (.file (Text.octets script)) := by
    refine FileTree.node_eq_ok_iff.2 ⟨[], [.ofString "sales", .ofString "orders.sql"], rfl, ?_, rfl⟩
    have stays : (scriptTree script).move [] .dot = .step [] := rfl
    have segments : Catalog.ordersScript.segments =
      [.dot, .ofString "sales", .ofString "orders.sql"] := rfl
    simp [segments, FileTree.follow_cons, stays, into, there]
  exact FileTree.readText_eq_ok_iff.2 ⟨_, found, Text.ofOctets?_octets script⟩

/-- Semicolons that stand together are taken away. -/
theorem joint_script_view :
    scriptTable.kind = .sqlScript ∧
    (scriptTree " select 1 as id ;;\n").readText scriptTable.dataFile =
      .ok " select 1 as id ;;\n" ∧
    viewStatement (scriptTree " select 1 as id ;;\n") "sales" scriptTable =
      .ok "CREATE VIEW \"sales_orders\" AS select 1 as id" := by
  have joint : ¬Scattered " select 1 as id ;;\n".toList := by
    rw [← getLast?_body_iff]
    decide
  have kind : scriptTable.kind = .sqlScript := by decide
  refine ⟨kind, readText_scriptTree _, ?_⟩
  rw [(script_views_bare_iff kind (readText_scriptTree _)).1.2 joint]
  decide

/-- Semicolons with white space between them are not: the statement ends in one, and a script of
nothing else is not refused. -/
theorem scattered_script_keeps_semicolon :
    (scriptTree "select 1; ;").readText scriptTable.dataFile = .ok "select 1; ;" ∧
    viewStatement (scriptTree "select 1; ;") "sales" scriptTable =
      .ok "CREATE VIEW \"sales_orders\" AS select 1;" ∧
    bareView "sales" scriptTable "select 1; ;" =
      .ok "CREATE VIEW \"sales_orders\" AS select 1" ∧
    (scriptTree "; ;").readText scriptTable.dataFile = .ok "; ;" ∧
    viewStatement (scriptTree "; ;") "sales" scriptTable =
      .ok "CREATE VIEW \"sales_orders\" AS ;" ∧
    bareView "sales" scriptTable "; ;" = .error (emptyScript scriptTable) := by
  have kind : scriptTable.kind = .sqlScript := by decide
  refine ⟨readText_scriptTree _, ?_, by decide, readText_scriptTree _, ?_, by decide⟩
  · rw [viewStatement_of_script kind (readText_scriptTree _)]
    decide
  · rw [viewStatement_of_script kind (readText_scriptTree _)]
    decide

end DataShelf.Query
