import DataShelf.Proofs.RenderedPaths
import DataShelf.Proofs.WalkOrder
import Mathlib.Data.List.Induction

/-!
# Paths below a path

A path lies within another one if it goes on with names only (`Path.Within`). Names on a way down do
(`Path.within_below`); a text that is joined to a path does if it neither starts over nor climbs
(`Path.within_iff_of_components`), and it is one component exactly if it stands there as a name
(`Path.components_joinText_eq_iff`). The path above a name has the components before it
(`Path.components_parent?_child`).
-/

namespace DataShelf.Files
set_option autoImplicit false

namespace Path

variable {p q root : Path} {s : String}

/-- A path lies within another one if names follow it, and nothing else. -/
def Within (root p : Path) : Prop :=
  ∃ names : List Name, p.components = root.components ++ names.map .normal

theorem Within.trans {p q r : Path} (outer : p.Within q) (inner : q.Within r) : p.Within r := by
  obtain ⟨names, same⟩ := outer
  obtain ⟨more, below⟩ := inner
  exact ⟨names ++ more, by rw [below, same, List.map_append, List.append_assoc]⟩

theorem within_below {way : List Name} (proper : ∀ n ∈ way, n.Proper) :
    p.Within (way.foldl child p) :=
  ⟨way, components_below proper⟩

/-! ### Texts below a path -/

/-- A text that is one component of a path. -/
structure IsComponent (s : String) : Prop where
  part : IsPart s
  counts : componentOf? (.ofString s) = some (.normal (.ofString s))

/-- A text that leads nowhere but further down: it does not start over and does not climb. -/
structure StaysBelow (s : String) : Prop where
  relative : (ofString s).isAbsolute = false
  level : Name.dotDot ∉ (ofString s).segments

theorem segments_ofString_ne_nil (s : String) : (ofString s).segments ≠ [] := by
  obtain ⟨parts, filled, clean, rfl⟩ := exists_parts s
  rw [segments_ofString filled clean]
  simpa using filled

theorem segments_of_part (part : IsPart s) : (ofString s).segments = [Name.ofString s] := by
  have single : (ofString (slashed [s])).segments = [s].map Name.ofString :=
    segments_ofString (by simp) (by simpa using part)
  rwa [slashed, String.intercalate_singleton] at single

/-- A text that is a part of the path it spells is all of it. -/
theorem isPart_of_mem (member : Name.ofString s ∈ (ofString s).segments) : IsPart s := by
  obtain ⟨parts, filled, clean, whole⟩ := exists_parts s
  rw [whole, segments_ofString filled clean, ← whole] at member
  obtain ⟨part, among, same⟩ := List.mem_map.1 member
  exact Name.ofString_injective same ▸ clean part among

theorem relative_of_part (part : IsPart s) : (ofString s).isAbsolute = false := by
  rw [isAbsolute, segments_of_part part]

/-- A component stays below what it is joined to. -/
theorem IsComponent.staysBelow (h : IsComponent s) : StaysBelow s where
  relative := relative_of_part h.part
  level := by
    have counts := h.counts
    rw [segments_of_part h.part, List.mem_singleton]
    intro same
    rw [← same] at counts
    cases counts

/-- Parts behind the first are components, and all of them names, unless one climbs. -/
theorem exists_names_iff (l : List Name) :
    (∃ names : List Name, l.filterMap componentOf? = names.map .normal) ↔ Name.dotDot ∉ l := by
  constructor
  · rintro ⟨names, same⟩ climbs
    have up : Component.parent ∈ l.filterMap componentOf? :=
      List.mem_filterMap.2 ⟨Name.dotDot, climbs, by decide⟩
    rw [same] at up
    simp at up
  · intro level
    refine ⟨l.filter fun n => !n.isIdle, ?_⟩
    induction l with
    | nil => rfl
    | cons n l ih =>
      obtain ⟨here, later⟩ := not_or.1 (mt List.mem_cons.2 level)
      cases idle : n.isIdle with
      | true => simpa [componentOf?, idle] using ih later
      | false => simpa [componentOf?, idle, Ne.symm here] using ih later

/-- A path with further components lies below exactly if none of them goes up. -/
theorem within_iff_of_components {l : List Name}
    (same : p.components = root.components ++ l.filterMap componentOf?) :
    root.Within p ↔ Name.dotDot ∉ l := by
  rw [← exists_names_iff]
  simp only [Within, same, List.append_cancel_left_eq]

/-! ### Joining -/

theorem joinText_of_absolute (absolute : (ofString s).isAbsolute) : p.joinText s = ofString s := by
  rw [joinText, join, if_pos absolute]

theorem segments_joinText (relative : (ofString s).isAbsolute = false) :
    (p.joinText s).segments = p.parts ++ (ofString s).segments := by
  simp only [joinText, join, relative, parts]
  by_cases empty : p.segments.getLast? = some Name.empty <;> simp [empty]

/-- A path that is not empty has a part. -/
theorem parts_ne_nil (filled : p.octets ≠ []) : p.parts ≠ [] := by
  intro none
  rcases p.segments_eq_parts_or with same | same
  all_goals
    rw [none] at same
    exact filled (by rw [octets, same]; rfl)

theorem octets_ne_nil_of_two (first second : Name) (rest : List Name) :
    octets ⟨first :: second :: rest⟩ ≠ [] := by
  simp [octets, List.intercalate_cons_cons]

/-- Joining a text leaves no path empty. -/
theorem octets_joinText_ne_nil (filled : p.octets ≠ []) (s : String) :
    (p.joinText s).octets ≠ [] := by
  cases absolute : (ofString s).isAbsolute with
  | true =>
    rw [joinText_of_absolute absolute]
    unfold isAbsolute at absolute
    split at absolute
    · next first second rest cut =>
      have same : ofString s = ⟨first :: second :: rest⟩ := congrArg mk cut
      rw [same]
      exact octets_ne_nil_of_two first second rest
    · cases absolute
  | false =>
    obtain ⟨first, front, cut⟩ := List.exists_cons_of_ne_nil (parts_ne_nil filled)
    obtain ⟨second, behind, spelled⟩ := List.exists_cons_of_ne_nil (segments_ofString_ne_nil s)
    have below : p.joinText s = ⟨first :: (front ++ second :: behind)⟩ := by
      rw [← spelled, ← List.cons_append, ← cut]
      exact congrArg mk (segments_joinText absolute)
    rw [below]
    cases front with
    | nil => exact octets_ne_nil_of_two first second behind
    | cons next front => exact octets_ne_nil_of_two first next (front ++ second :: behind)

/-- A relative text has its parts counted behind the path that it is joined to. -/
theorem components_joinText (filled : p.octets ≠ []) (relative : (ofString s).isAbsolute = false) :
    (p.joinText s).components =
      p.components ++ (ofString s).segments.filterMap componentOf? := by
  have below := segments_joinText (p := p) relative
  have parted := segments_ofString_ne_nil s
  have idle : componentOf? Name.empty = none := rfl
  obtain ⟨first, front, cut⟩ := List.exists_cons_of_ne_nil (parts_ne_nil filled)
  have behind : (front ++ (ofString s).segments).isEmpty = false := by
    simp [parted]
  rw [cut] at below
  rcases p.segments_eq_parts_or with same | same
  · rw [cut] at same
    -- A path of one empty part would be of no octets, so the first part counts alike in both.
    have named : front.isEmpty → first ≠ Name.empty := by
      rintro empty rfl
      exact filled (by rw [octets, same, List.isEmpty_iff.1 empty]; rfl)
    simp only [components, below, same, List.cons_append, behind]
    cases alone : front.isEmpty <;> simp [alone, named]
  · rw [cut] at same
    simp [components, below, same, behind, idle]

/-- A component that is a name stands among the names. -/
theorem mem_of_normal {n : Name} {l : List Name} (member : .normal n ∈ l.filterMap componentOf?) :
    n ∈ l := by
  obtain ⟨m, among, counts⟩ := List.mem_filterMap.1 member
  unfold componentOf? at counts
  split at counts
  · cases counts
  · split at counts
    · cases counts
    · cases counts
      exact among

/-- A component that is a name stands among the segments. -/
theorem mem_segments_of_normal {n : Name} (member : .normal n ∈ p.components) : n ∈ p.segments := by
  unfold components at member
  split at member
  · cases member
  · next first rest cut =>
    rw [cut]
    rcases List.mem_append.1 member with head | behind
    · have counts : .normal n ∈ [first].filterMap componentOf? := by
        split at head
        · split at head <;> simp at head
        · split at head
          · simp at head
          · simpa [eq_comm] using head
      obtain rfl := List.mem_singleton.1 (mem_of_normal counts)
      exact List.mem_cons_self
    · exact List.mem_cons_of_mem _ (mem_of_normal behind)

/-- If a text stands first among the components behind a path that it is joined to, it is one
component, and there are no others. -/
theorem isComponent_of_components (filled : p.octets ≠ []) {rest : List Component}
    (same : (p.joinText s).components = p.components ++ .normal (.ofString s) :: rest) :
    IsComponent s ∧ rest = [] := by
  cases absolute : (ofString s).isAbsolute with
  | true =>
    rw [joinText_of_absolute absolute] at same
    have member : .normal (.ofString s) ∈ (ofString s).components := by simp [same]
    have part := isPart_of_mem (mem_segments_of_normal member)
    simp [relative_of_part part] at absolute
  | false =>
    rw [components_joinText filled absolute, List.append_cancel_left_eq] at same
    have member : .normal (.ofString s) ∈ (ofString s).segments.filterMap componentOf? := by
      simp [same]
    have part := isPart_of_mem (mem_of_normal member)
    rw [segments_of_part part] at same
    cases counts : componentOf? (.ofString s) with
    | none => simp [counts] at same
    | some c =>
      simp only [List.filterMap_cons, counts, List.filterMap_nil, List.cons.injEq] at same
      obtain ⟨rfl, rest⟩ := same
      exact ⟨⟨part, counts⟩, rest.symm⟩

/-- A text adds itself as one component exactly if it is one. -/
theorem components_joinText_eq_iff (filled : p.octets ≠ []) :
    (p.joinText s).components = p.components ++ [.normal (.ofString s)] ↔ IsComponent s := by
  constructor
  · intro same
    exact (isComponent_of_components filled same).1
  · intro h
    rw [components_joinText filled h.staysBelow.relative, segments_of_part h.part]
    simp [h.counts]

/-! ### Texts with an ending -/

section Ending

variable {ending : String} (clean : IsPart ending)

include clean in
/-- A name with an ending has it at its last part. -/
theorem segments_dotted (name : String) : ∃ front last,
    (ofString name).segments = front ++ [last] ∧
      (ofString (name ++ "." ++ ending)).segments =
        front ++ [⟨last.octets ++ 46 :: Text.octets ending⟩] := by
  have slash : 47 ∉ 46 :: Text.octets ending := by
    simpa using fun slash => clean (slash_mem_octets_iff.1 slash)
  obtain ⟨front, last, before, after⟩ := splitSlashes_append slash (Text.octets name)
  refine ⟨front, last, before, ?_⟩
  rw [ofString, ofOctets, octets_dotted, after]

include clean in
/-- An ending decides nothing about whether a text starts over. -/
theorem isAbsolute_dotted (name : String) :
    (ofString (name ++ "." ++ ending)).isAbsolute = (ofString name).isAbsolute := by
  obtain ⟨front, last, before, after⟩ := segments_dotted clean name
  rw [isAbsolute, isAbsolute, before, after]
  cases front with
  | nil => rfl
  | cons first front => cases front <;> rfl

variable (dot : 46 ∉ Text.octets ending) (real : Text.octets ending ≠ [])

include clean dot real

/-- The ending makes an ordinary name of the last part. -/
theorem dotDot_mem_of_dotted {name : String}
    (climbs : Name.dotDot ∈ (ofString (name ++ "." ++ ending)).segments) :
    Name.dotDot ∈ (ofString name).segments := by
  obtain ⟨front, last, before, after⟩ := segments_dotted clean name
  rw [after, List.mem_append, List.mem_singleton] at climbs
  rw [before]
  rcases climbs with earlier | same
  · exact List.mem_append_left _ earlier
  · exact absurd same.symm (Name.dotted_ne_dotDot _ dot real)

/-- A path that ends with a name and its ending shows the name to be without a slash. -/
theorem isPart_of_fileName? {name : String}
    (named : (p.joinText (name ++ "." ++ ending)).fileName? =
      some (.ofString (name ++ "." ++ ending))) : IsPart name := by
  obtain ⟨front, last, before, after⟩ := segments_dotted clean name
  obtain ⟨above, joined⟩ := segments_join p (ofString (name ++ "." ++ ending))
  have whole : p.joinText (name ++ "." ++ ending) =
      ⟨(above ++ front) ++ [⟨last.octets ++ 46 :: Text.octets ending⟩]⟩ := by
    rw [List.append_assoc, ← after]
    exact congrArg mk joined
  have found := fileName?_concat (above ++ front) (Name.dotted_isIdle last.octets real)
    (Name.dotted_ne_dotDot last.octets dot real)
  rw [← whole, named, Name.ofString, octets_dotted, Option.some.injEq, Name.mk.injEq,
    List.append_cancel_right_eq] at found
  refine isPart_of_mem ?_
  rw [before, Name.ofString, found]
  exact List.mem_append_right _ List.mem_cons_self

/-- A part of a path with an ending is a component. -/
theorem isComponent_dotted {name : String} (part : IsPart name) :
    IsComponent (name ++ "." ++ ending) where
  part := (part.append (by decide)).append clean
  counts := by
    obtain ⟨idle, up⟩ : (Name.ofString (name ++ "." ++ ending)).isIdle = false ∧
      Name.ofString (name ++ "." ++ ending) ≠ Name.dotDot := Name.dotted_counts dot real
    simp [componentOf?, idle, up]

end Ending

/-! ### The path above a name -/

/-- Idle parts at the end go with the name, and they do not count as components. -/
theorem components_of_parent?_concat {n : Name} (real : n.isIdle = false) (first : Name)
    {front : List Name} {above : Path} (parent : parent? ⟨first :: (front ++ [n])⟩ = some above) :
    above.components = components ⟨first :: (front ++ [Name.empty])⟩ := by
  have nothing : componentOf? Name.empty = none := rfl
  rw [parent?_concat real] at parent
  induction front using List.reverseRecOn with
  | nil =>
    cases idle : first.isIdle with
    | true =>
      rcases (by simpa [Name.isIdle] using idle : first = Name.empty ∨ first = Name.dot) with rfl | rfl
      all_goals
        obtain rfl := Option.some.inj parent
        rfl
    | false =>
      have single : [first].dropWhile Name.isIdle = [first] :=
        List.dropWhile_cons_of_neg (by simp [idle])
      have named : first ≠ Name.empty := by
        rintro rfl
        cases idle
      rw [List.reverse_nil, List.nil_append, single] at parent
      obtain rfl := Option.some.inj parent
      simp [components, named, nothing]
  | append_singleton front m ih =>
    rw [List.reverse_concat, List.cons_append] at parent
    cases idle : m.isIdle with
    | true =>
      rw [List.dropWhile_cons_of_pos idle] at parent
      have gone : componentOf? m = none := by rw [componentOf?, if_pos idle]
      rw [ih parent]
      simp [components, nothing, gone]
    | false =>
      rw [List.dropWhile_cons_of_neg (by simp [idle])] at parent
      obtain rfl := Option.some.inj parent
      cases counts : componentOf? m <;> simp [components, counts, nothing]

/-- The path above a name below a path has the components of that path. -/
theorem components_parent?_child {n : Name} (real : n.isIdle = false) {above : Path}
    (parent : (p.child n).parent? = some above) : above.components = p.components := by
  have below : p.child n = ⟨p.parts ++ [n]⟩ := congrArg mk (segments_child p n)
  rw [below] at parent
  cases cut : p.parts with
  | nil =>
    have named : n ≠ Name.empty := by
      rintro rfl
      cases real
    have alone : parent? ⟨[n]⟩ = some empty := by
      simp [parent?, trimmedReverse, named]
    rw [cut] at parent
    obtain rfl := Option.some.inj (alone.symm.trans parent)
    rcases p.segments_eq_parts_or with same | same <;> rw [components, components, same, cut] <;> rfl
  | cons first front =>
    rw [cut, List.cons_append] at parent
    rw [components_of_parent?_concat real first parent]
    rcases p.segments_eq_parts_or with same | same
    · rw [cut] at same
      have named : front.isEmpty → first ≠ Name.empty := by
        rintro none rfl
        simp [parts, same, List.isEmpty_iff.1 none] at cut
      have nothing : componentOf? Name.empty = none := rfl
      cases alone : front.isEmpty <;> simp [components, same, nothing, alone, named]
    · rw [cut] at same
      rw [components, components, same]
      rfl

end Path
end DataShelf.Files
