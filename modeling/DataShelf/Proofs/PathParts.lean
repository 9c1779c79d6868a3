import DataShelf.Files.Tree

/-!
# The parts of a path

A name put below a path stands behind its parts (`Path.segments_child`); an empty part at the end,
left by a slash, does not count among them. So the way down from a path is its parts and the names
on the way (`Path.segments_below`), and is as long as they are (`Path.octets_below`).
-/

namespace DataShelf.Files
set_option autoImplicit false

/-- A name that a directory can hold. -/
structure Name.Proper (n : Name) : Prop where
  idle : n.isIdle = false
  up : n ≠ Name.dotDot
  short : n.octets.length ≤ FileTree.longestName
  slash : 47 ∉ n.octets
  null : 0 ∉ n.octets

instance (n : Name) : Decidable n.Proper :=
  decidable_of_iff (n.isIdle = false ∧ n ≠ Name.dotDot ∧
    n.octets.length ≤ FileTree.longestName ∧ 47 ∉ n.octets ∧ 0 ∉ n.octets)
    ⟨fun ⟨idle, up, short, slash, null⟩ => ⟨idle, up, short, slash, null⟩,
      fun h => ⟨h.idle, h.up, h.short, h.slash, h.null⟩⟩

theorem Name.Proper.ne_empty {n : Name} (h : n.Proper) : n ≠ Name.empty := by
  rintro rfl
  exact absurd h.idle (by decide)

namespace Path

/-- The parts of a path, without an empty one at the end. -/
def parts (p : Path) : List Name :=
  if p.segments.getLast? == some Name.empty then p.segments.dropLast else p.segments

/-- A path has its parts, and maybe an empty one behind them. -/
theorem segments_eq_parts_or (p : Path) :
    p.segments = p.parts ∨ p.segments = p.parts ++ [Name.empty] := by
  unfold parts
  split
  · next empty =>
    obtain ⟨before, whole⟩ := List.getLast?_eq_some_iff.1 (beq_iff_eq.1 empty)
    exact .inr (by rw [whole, List.dropLast_concat])
  · exact .inl rfl

theorem segments_child (p : Path) (n : Name) : (p.child n).segments = p.parts ++ [n] := by
  by_cases empty : p.segments.getLast? = some Name.empty <;>
    simp [child, join, ofName, isAbsolute, parts, empty]

/-- A path below another has one more part. -/
theorem parts_child {n : Name} (p : Path) (named : n ≠ Name.empty) :
    (p.child n).parts = p.parts ++ [n] := by
  rw [parts, segments_child]
  simp [named]

/-- A way below a path stands behind its parts. -/
theorem segments_below {p : Path} {way : List Name} (named : ∀ n ∈ way, n ≠ Name.empty)
    (more : way ≠ []) : (way.foldl child p).segments = p.parts ++ way := by
  induction way generalizing p with
  | nil => exact absurd rfl more
  | cons n way ih =>
    cases way with
    | nil => exact segments_child p n
    | cons m way =>
      rw [List.foldl_cons, ih (fun k hk => named k (List.mem_cons_of_mem _ hk)) (by simp),
        parts_child p (named n List.mem_cons_self), List.append_assoc, List.singleton_append]

theorem mem_segments_of_parts {p : Path} {n : Name} (h : n ∈ p.parts) : n ∈ p.segments := by
  rcases p.segments_eq_parts_or with same | same <;> rw [same]
  · exact h
  · exact List.mem_append_left _ h

/-- A path below another is absolute if that is. -/
theorem isAbsolute_below {p : Path} {way : List Name} (filled : p.octets ≠ [])
    (named : ∀ n ∈ way, n ≠ Name.empty) (more : way ≠ []) :
    (way.foldl child p).isAbsolute = p.isAbsolute := by
  have below := segments_below (p := p) named more
  obtain ⟨m, way, rfl⟩ := List.exists_cons_of_ne_nil more
  obtain ⟨segments⟩ := p
  unfold isAbsolute
  rw [below]
  match segments with
  | [] => exact absurd rfl filled
  | [first] =>
    have known : first ≠ Name.empty := by
      rintro rfl
      exact filled rfl
    simp [parts, known]
  | first :: second :: rest =>
    rcases segments_eq_parts_or ⟨first :: second :: rest⟩ with same | same
    · simp [← same]
    · cases cut : parts ⟨first :: second :: rest⟩ with
      | nil => simp [cut] at same
      | cons head others =>
        rw [cut] at same
        cases others <;> simp [(List.cons.inj same).1]

/-- The octets of a path but for the slashes are those of its segments. -/
theorem mem_octets_iff {b : UInt8} (p : Path) (other : b ≠ 47) :
    b ∈ p.octets ↔ ∃ n ∈ p.segments, b ∈ n.octets := by
  obtain ⟨segments⟩ := p
  simp only [octets]
  induction segments with
  | nil => simp
  | cons n rest ih =>
    cases rest with
    | nil => simp
    | cons m rest => simp_all [List.intercalate_cons_cons]

/-- A name is put behind others with a slash between. -/
theorem octets_concat {front : List Name} (filled : front ≠ []) (n : Name) :
    octets ⟨front ++ [n]⟩ = octets ⟨front⟩ ++ 47 :: n.octets := by
  simp only [octets]
  induction front with
  | nil => exact absurd rfl filled
  | cons first rest ih =>
    cases rest with
    | nil => simp
    | cons second rest => simpa [List.intercalate_cons_cons] using ih (by simp)

/-- Names below a path stand behind it, each after a slash, if it does not end in one. -/
theorem octets_below {p : Path} {way : List Name} (filled : p.segments ≠ [])
    (ends : p.segments.getLast? ≠ some Name.empty) (named : ∀ n ∈ way, n ≠ Name.empty) :
    (way.foldl child p).octets = p.octets ++ way.flatMap fun n => 47 :: n.octets := by
  induction way generalizing p with
  | nil => simp
  | cons n way ih =>
    obtain ⟨here, later⟩ := List.forall_mem_cons.1 named
    have parts : p.parts = p.segments := if_neg (by simpa using ends)
    have below : p.child n = ⟨p.segments ++ [n]⟩ := by
      rw [← parts]
      exact congrArg mk (segments_child p n)
    have octets : (p.child n).octets = p.octets ++ 47 :: n.octets := by
      rw [below]
      exact octets_concat filled n
    have filled' : (p.child n).segments ≠ [] := by simp [below]
    have ends' : (p.child n).segments.getLast? ≠ some Name.empty := by simpa [below] using here
    rw [List.foldl_cons, ih filled' ends' later, octets, List.flatMap_cons, List.append_assoc]

/-- A name below a path makes it no shorter. -/
theorem length_octets_le_child (p : Path) (n : Name) :
    p.octets.length ≤ (p.child n).octets.length := by
  have below : p.child n = ⟨p.parts ++ [n]⟩ := congrArg mk (segments_child p n)
  have above : p = ⟨p.parts⟩ ∨ p = ⟨p.parts ++ [Name.empty]⟩ :=
    p.segments_eq_parts_or.imp (congrArg mk) (congrArg mk)
  rw [below]
  by_cases bare : p.parts = []
  · have empty : p.octets = [] := by
      rcases above with same | same <;> rw [same, bare] <;> rfl
    simp [empty]
  · rw [octets_concat bare, List.length_append, List.length_cons]
    rcases above with same | same
    · rw [congrArg octets same]
      omega
    · rw [congrArg octets same, octets_concat bare, List.length_append, List.length_cons]
      exact Nat.add_le_add_left (Nat.succ_le_succ (Nat.zero_le _)) _

end Path

end DataShelf.Files
