import DataShelf.Catalog.Manifest
import DataShelf.Proofs.FileNames

/-!
# Paths of rendered files

The parts of a text are what stands between its slashes. A path that a text spells has the names of
those parts (`Path.segments_ofString`), since no character but the slash has the octet of a slash in
it (`slash_mem_octets_iff`). So a rendered path names the table that its last part but one is, if it
has enough parts (`Manifest.tableOf?_eq_some_iff`).
-/

namespace DataShelf.Files
set_option autoImplicit false

/-! ### Texts and their parts -/

/-- The octet of a slash is in a text exactly if a slash is. -/
theorem slash_mem_octets_iff {s : String} : 47 ∈ Text.octets s ↔ '/' ∈ s.toList :=
  Text.mem_octets_iff (by decide) rfl

/-- The text of parts with slashes between them. -/
def slashed (parts : List String) : String := "/".intercalate parts

/-- A part of a text holds no slash. -/
def IsPart (s : String) : Prop := '/' ∉ s.toList

instance (s : String) : Decidable (IsPart s) := inferInstanceAs (Decidable ('/' ∉ s.toList))

theorem isPart_of_proper {s : String} (h : (Name.ofString s).Proper) : IsPart s :=
  fun slash => h.slash (slash_mem_octets_iff.2 slash)

theorem IsPart.append {s u : String} (hs : IsPart s) (hu : IsPart u) : IsPart (s ++ u) := by
  simp_all [IsPart]

/-- Every text is that of its parts. -/
theorem exists_parts (s : String) :
    ∃ parts, parts ≠ [] ∧ (∀ part ∈ parts, IsPart part) ∧ s = slashed parts := by
  suffices cut : ∀ cs : List Char, ∃ parts, parts ≠ [] ∧ (∀ part ∈ parts, IsPart part) ∧
      String.ofList cs = slashed parts by
    simpa using cut s.toList
  intro cs
  induction cs with
  | nil => exact ⟨[""], by simp, by simp [IsPart], rfl⟩
  | cons c cs ih =>
    obtain ⟨parts, filled, clean, whole⟩ := ih
    obtain ⟨first, rest, rfl⟩ := List.exists_cons_of_ne_nil filled
    have front : String.ofList (c :: cs) = String.singleton c ++ slashed (first :: rest) := by
      rw [← whole]
      exact String.toList_injective (by simp)
    by_cases slash : c = '/'
    · subst slash
      refine ⟨"" :: first :: rest, by simp, ?_, ?_⟩
      · exact List.forall_mem_cons.2 ⟨by simp [IsPart], clean⟩
      · rw [front, slashed, slashed, String.intercalate_cons_cons]
        rfl
    · refine ⟨(String.singleton c ++ first) :: rest, by simp, ?_, ?_⟩
      · obtain ⟨here, later⟩ := List.forall_mem_cons.1 clean
        refine List.forall_mem_cons.2 ⟨?_, later⟩
        simpa [IsPart, Ne.symm slash] using here
      · rw [front, slashed, slashed, String.intercalate_cons_append]

namespace Path

/-- A part ends at the first slash. -/
theorem splitSlashes_cons_slash {part : List UInt8} (clean : 47 ∉ part) (more : List UInt8) :
    splitSlashes (part ++ 47 :: more) = ⟨part⟩ :: splitSlashes more := by
  induction part with
  | nil =>
    have unslashed : (47 : UInt8) ∉ [] := List.not_mem_nil
    obtain ⟨front, last, cut, -⟩ := splitSlashes_append unslashed more
    rw [List.nil_append, splitSlashes, cut]
    cases front <;> rfl
  | cons b part ih =>
    simp only [List.mem_cons, not_or] at clean
    rw [List.cons_append, splitSlashes, ih clean.2]
    simp [Ne.symm clean.1]

/-- The path that a text spells has the names of its parts. -/
theorem segments_ofString {parts : List String} (filled : parts ≠ [])
    (clean : ∀ part ∈ parts, IsPart part) :
    (ofString (slashed parts)).segments = parts.map Name.ofString := by
  rw [ofString, ofOctets]
  induction parts with
  | nil => exact absurd rfl filled
  | cons part parts ih =>
    obtain ⟨here, later⟩ := List.forall_mem_cons.1 clean
    have octets : 47 ∉ Text.octets part := fun slash => here (slash_mem_octets_iff.1 slash)
    cases parts with
    | nil =>
      rw [slashed, String.intercalate_singleton]
      exact splitSlashes_of_clean octets
    | cons next parts =>
      have slash : Text.octets "/" = [47] := by decide
      rw [slashed, String.intercalate_cons_cons, Text.octets_append, Text.octets_append, slash,
        List.append_assoc, List.singleton_append, ← slashed]
      dsimp only at ih ⊢
      rw [splitSlashes_cons_slash octets, ih (by simp) later]
      rfl

/-- A part put below a path is a name below it. -/
theorem joinText_of_part {s : String} (part : IsPart s) (p : Path) :
    p.joinText s = p.child (.ofString s) := by
  have clean : 47 ∉ Text.octets s := fun slash => part (slash_mem_octets_iff.1 slash)
  rw [joinText, child, ofName, ofString, ofOctets, splitSlashes_of_clean clean]
  rfl

end Path
end DataShelf.Files

namespace DataShelf.Catalog.Manifest
set_option autoImplicit false

open Files (Name Path slashed IsPart)

/-- The last part but one of a rendered path is the name of a table. -/
def NamesTable (rendered table : String) : Prop :=
  ∃ front last, rendered = slashed (front ++ [table, last]) ∧
    (∀ part ∈ front ++ [table, last], IsPart part) ∧ leastParts ≤ front.length + 2

/-- A rendered path of parts names its last part but one, if there are enough of them. -/
theorem tableOf?_slashed {parts : List String} (filled : parts ≠ [])
    (clean : ∀ part ∈ parts, IsPart part) :
    tableOf? (slashed parts) =
      match parts.reverse with
      | _ :: table :: rest => if rest.length + 2 < leastParts then none else some table
      | _ => none := by
  have names : (Path.ofString (slashed parts)).segments.map Name.display = parts := by
    rw [Path.segments_ofString filled clean, List.map_map]
    refine List.map_id'' (fun part => ?_) parts
    exact Text.display_octets part
  show (match ((Path.ofString (slashed parts)).segments.map Name.display).reverse with
    | _ :: table :: rest => if rest.length + 2 < leastParts then none else some table
    | _ => none) = _
  rw [names]

/-- A rendered path names a table exactly as is said of such paths. -/
theorem tableOf?_eq_some_iff {rendered table : String} :
    tableOf? rendered = some table ↔ NamesTable rendered table := by
  constructor
  · intro found
    obtain ⟨parts, filled, clean, rfl⟩ := Files.exists_parts rendered
    rw [tableOf?_slashed filled clean] at found
    split at found
    · next last table' rest reversed =>
      split at found
      · cases found
      · next enough =>
        obtain rfl := Option.some.inj found
        have whole : parts = rest.reverse ++ [table', last] := by
          rw [← List.reverse_reverse parts, reversed]
          simp
        subst whole
        exact ⟨_, _, rfl, clean, by simpa using enough⟩
    · cases found
  · rintro ⟨front, last, rfl, clean, enough⟩
    rw [tableOf?_slashed (by simp) clean]
    simpa using enough

end DataShelf.Catalog.Manifest
