import DataShelf.Proofs.FileNames
import DataShelf.Proofs.Walking
import Mathlib.Data.List.Lex

/-!
# The order of a walk

Paths are compared component by component, names by their octets (`Path.Before`). A walk goes through
the entries of each directory in the order of their names, so the ways that it lists are in order
(`sorted_waysToFiles`), and so are the paths that it finds in a tree of proper names
(`FileTree.sorted_findFiles`). The first one found is then the least of all that could be found
(`find?_eq_some_iff_least`).
-/

namespace DataShelf.Files
set_option autoImplicit false

/-! ### The order of paths -/

/-- Octet order of names. -/
def Name.Before (a b : Name) : Prop := a.octets < b.octets

instance : DecidableRel Name.Before := fun a b => inferInstanceAs (Decidable (a.octets < b.octets))

namespace Path

/-- The kinds of components in order: the root, dots, names. -/
def Component.rank : Component → Nat
  | .root => 0
  | .current => 1
  | .parent => 2
  | .normal _ => 3

/-- The octets of a name; other components have none. -/
def Component.octets : Component → List UInt8
  | .normal n => n.octets
  | _ => []

def Component.Before (a b : Component) : Prop :=
  a.rank < b.rank ∨ a.rank = b.rank ∧ a.octets < b.octets

/-- Order of paths, component by component. -/
def Before (p q : Path) : Prop := List.Lex Component.Before p.components q.components

/-- A path that is wanted and comes before all others that are wanted. -/
def Least (Wanted : Path → Prop) (p : Path) : Prop :=
  Wanted p ∧ ∀ q, Wanted q → q ≠ p → p.Before q

theorem Component.Before.asymm {a b : Component} (h : a.Before b) : ¬b.Before a := by
  rintro (lower | ⟨same, later⟩)
  · rcases h with higher | ⟨same, -⟩ <;> omega
  · rcases h with higher | ⟨-, earlier⟩
    · omega
    · exact List.lt_asymm earlier later

theorem Before.asymm {p q : Path} (h : p.Before q) : ¬q.Before p :=
  List.lex_asymm (fun before => before.asymm) h

/-- No two paths are the least of one kind. -/
theorem Least.unique {Wanted : Path → Prop} {p q : Path} (hp : Least Wanted p)
    (hq : Least Wanted q) : p = q := by
  by_contra other
  exact (hp.2 q hq.1 (Ne.symm other)).asymm (hq.2 p hp.1 other)

/-- Among paths in order, the first of a kind is the least of that kind. -/
theorem find?_eq_some_iff_least {l : List Path} (sorted : l.Pairwise Before) (wanted : Path → Bool)
    {p : Path} : l.find? wanted = some p ↔ Least (fun q => q ∈ l ∧ wanted q) p := by
  have least {p : Path} (found : l.find? wanted = some p) : Least (fun q => q ∈ l ∧ wanted q) p := by
    obtain ⟨chosen, front, behind, rfl, passed⟩ := List.find?_eq_some_iff_append.1 found
    refine ⟨⟨by simp, chosen⟩, ?_⟩
    rintro q ⟨member, wants⟩ other
    rcases List.mem_append.1 member with earlier | later
    · simpa [wants] using passed q earlier
    · rcases List.mem_cons.1 later with same | later
      · exact absurd same other
      · exact List.rel_of_pairwise_cons (List.pairwise_append.1 sorted).2.1 later
  refine ⟨least, fun h => ?_⟩
  obtain ⟨q, found⟩ := Option.isSome_iff_exists.1 (List.find?_isSome.2 ⟨p, h.1⟩)
  by_cases same : q = p
  · rw [found, same]
  · exact absurd (h.2 q (least found).1 same) ((least found).2 p h.1 (Ne.symm same)).asymm

/-- The path of an entry has one more component. -/
theorem components_child {n : Name} (p : Path) (real : n.isIdle = false) (up : n ≠ Name.dotDot) :
    (p.child n).components = p.components ++ [.normal n] := by
  have counts : componentOf? n = some (.normal n) := by simp [componentOf?, real, up]
  have known : n ≠ Name.empty ∧ n ≠ Name.dot := by simpa [Name.isIdle] using real
  have idle : componentOf? Name.empty = none := rfl
  have below := segments_child p n
  have whole := segments_eq_parts_or p
  rcases p with ⟨segments⟩
  generalize cut : parts ⟨segments⟩ = front at below whole
  simp only [components, below]
  cases front with
  | nil =>
    rcases whole with rfl | rfl <;> simp [counts, known.1, known.2]
  | cons first front =>
    have behind : (front ++ [n]).filterMap componentOf? =
        front.filterMap componentOf? ++ [.normal n] := by simp [counts]
    rcases whole with rfl | rfl
    · -- A path of one empty part has no parts, so the head of the only part stays the same.
      have named : front.isEmpty → first ≠ Name.empty := by
        rintro none rfl
        simp [parts, List.isEmpty_iff.1 none] at cut
      cases alone : front.isEmpty <;> simp [behind, alone, named]
    · simp [behind, idle]

/-- The names on the way down are the last components of a path. -/
theorem components_below {p : Path} {way : List Name} (proper : ∀ n ∈ way, n.Proper) :
    (way.foldl child p).components = p.components ++ way.map .normal := by
  induction way generalizing p with
  | nil => simp
  | cons n way ih =>
    have name := proper n List.mem_cons_self
    rw [List.foldl_cons, ih fun m hm => proper m (List.mem_cons_of_mem _ hm),
      components_child p name.idle name.up]
    simp

/-- Ways down from a path are in the order of their names. -/
theorem before_below {p : Path} {way way' : List Name} (proper : ∀ n ∈ way, n.Proper)
    (proper' : ∀ n ∈ way', n.Proper) (h : List.Lex Name.Before way way') :
    (way.foldl child p).Before (way'.foldl child p) := by
  rw [Before, components_below proper, components_below proper']
  refine List.Lex.append_left _ ?_ _
  clear proper proper'
  induction h with
  | nil => exact .nil
  | cons _ ih => exact .cons ih
  | rel before => exact .rel (.inr ⟨rfl, before⟩)

end Path

/-! ### Walks in order -/

theorem distinct_firstOfEach {α : Type} (items : List (Name × α)) :
    (firstOfEach items).Pairwise fun a b => a.1 ≠ b.1 := by
  induction items with
  | nil => exact .nil
  | cons e rest ih =>
    refine List.pairwise_cons.2 ⟨fun other member => ?_, ih.filter _⟩
    exact fun same => by simpa [same] using (List.mem_filter.1 member).2

theorem sorted_inOrder {α : Type} (items : List (Name × α)) :
    (inOrder items).Pairwise fun a b => a.1.Before b.1 := by
  have ordered : (inOrder items).Pairwise fun a b => a.1.le b.1 := by
    refine List.pairwise_mergeSort (fun a b c hab hbc => ?_) (fun a b => ?_) _
    · simp only [Name.le, decide_eq_true_eq] at *
      exact List.le_trans hab hbc
    · simpa [Name.le] using List.le_total a.1.octets b.1.octets
  have distinct : (inOrder items).Pairwise fun a b => a.1 ≠ b.1 :=
    (List.mergeSort_perm _ _).symm.pairwise (distinct_firstOfEach items) Ne.symm
  refine (ordered.and distinct).imp ?_
  rintro ⟨a, _⟩ ⟨b, _⟩ ⟨le, ne⟩
  rcases List.le_iff_lt_or_eq.1 (of_decide_eq_true le) with before | same
  · exact before
  · exact absurd (congrArg Name.mk same) ne

/-- Items that are in order already stay as they are. -/
theorem inOrder_of_sorted {α : Type} {items : List (Name × α)}
    (sorted : (items.map (·.1)).Pairwise Name.Before) : inOrder items = items := by
  rw [List.pairwise_map] at sorted
  have all : firstOfEach items = items := by
    induction items with
    | nil => rfl
    | cons e rest ih =>
      obtain ⟨before, sorted⟩ := List.pairwise_cons.1 sorted
      rw [firstOfEach, ih sorted, List.filter_eq_self.2]
      intro other member
      have differs : other.1 ≠ e.1 := fun same => by
        have strictly := before other member
        rw [same] at strictly
        exact List.lt_irrefl _ strictly
      simpa using differs
  rw [inOrder, all]
  exact List.mergeSort_of_pairwise (sorted.imp fun before => decide_eq_true (List.le_of_lt before))

/-- The ways of a walk are in order. -/
theorem sorted_waysToFiles :
    (node : Node) → (node.waysTo Node.isFile).Pairwise (List.Lex Name.Before)
  | .file _ => waysToFiles_file _ ▸ List.pairwise_singleton _ _
  | .link _ => by
    rw [Node.waysTo]
    exact .nil
  | .directory entries => by
    -- The induction goes into the entries, of which `inOrder` keeps the first of each name.
    have inside (n : Name) (ways : List (List Name))
        (member : (n, ways) ∈ inOrder (waysThrough Node.isFile entries)) :
        ways.Pairwise (List.Lex Name.Before) := by
      obtain ⟨node, found, rfl⟩ := mem_inOrder_waysThrough_iff.1 member
      have smaller : sizeOf node < sizeOf entries := by
        have entry := List.sizeOf_lt_of_mem (Node.mem_of_named? found)
        simp only [Prod.mk.sizeOf_spec] at entry
        omega
      split
      · exact .nil
      · exact sorted_waysToFiles node
    rw [waysToFiles_directory, List.pairwise_flatMap]
    refine ⟨fun e member => ?_, (sorted_inOrder _).imp fun before way hway way' hway' => ?_⟩
    · exact List.pairwise_map.2 ((inside e.1 e.2 member).imp .cons)
    · obtain ⟨_, -, rfl⟩ := List.mem_map.1 hway
      obtain ⟨_, -, rfl⟩ := List.mem_map.1 hway'
      exact .rel before
termination_by node => sizeOf node
decreasing_by
  simp only [Node.directory.sizeOf_spec]
  omega

namespace FileTree

variable {t : FileTree} {p q : Path} {accept : Path → Bool}

/-- A walk from a path comes to a regular file: to one below a directory, or to the file at the path
itself. -/
def Reaches (t : FileTree) (p q : Path) : Prop :=
  (t.isDirectory p ∧ t.Sees p q) ∨ (q = p ∧ ∃ contents, t.ownNode p = .ok (.file contents))

/-- The files found are those that a walk reaches and that are accepted. -/
theorem mem_findFiles_iff_reaches :
    q ∈ (t.findFiles p accept).value ↔ t.Reaches p q ∧ accept q := by
  by_cases directory : t.isDirectory p
  · rw [mem_findFiles_iff accept directory, Reaches]
    simp only [directory, true_and]
    refine and_congr_left fun _ => (or_iff_left_of_imp ?_).symm
    rintro ⟨rfl, contents, own⟩
    rcases t.node_eq_ownNode_or q with same | ⟨target, link⟩
    · simp [isDirectory, same, own] at directory
    · simp [own] at link
  · simp only [Reaches, directory, Bool.false_eq_true, false_and, false_or]
    have same := t.node_eq_ownNode_or p
    unfold findFiles
    cases own : t.ownNode p with
    | error e => simp
    | ok node =>
      rw [own] at same
      cases node with
      | file contents =>
        have short := fits_nil (same.resolve_right (by simp))
        simp [filesBelow, waysToFiles_file, short, eq_comm (a := q)]
      | directory entries => simp [isDirectory, same.resolve_right (by simp)] at directory
      | link target =>
        cases found : t.node p with
        | error e => simp
        | ok node => cases node <;> simp_all [isDirectory]

theorem reaches_iff_sees (directory : t.isDirectory p) : t.Reaches p q ↔ t.Sees p q := by
  have found : q ∈ (t.findFiles p fun _ => true).value ↔ t.Reaches p q ∧ true :=
    mem_findFiles_iff_reaches
  rw [mem_findFiles_iff _ directory] at found
  simpa using found.symm

/-- The paths of the files found are in order. -/
theorem sorted_findFiles (proper : t.Proper) (p : Path) (accept : Path → Bool) :
    (t.findFiles p accept).value.Pairwise Path.Before := by
  rcases t.value_findFiles p accept with empty | ⟨node, found, listed⟩
  · rw [empty]
    exact .nil
  · obtain ⟨start, there, -, -, here⟩ := node_eq_ok_iff.1 found
    have names (way : List Name) (member : way ∈ node.waysTo Node.isFile) : ∀ n ∈ way, n.Proper := by
      obtain ⟨contents, down⟩ := (mem_waysToFiles_iff.1 member).descend
      exact proper.names_on_way here down
    rw [listed]
    refine List.Pairwise.filter _ (List.pairwise_map.2 (List.Pairwise.filter _ ?_))
    refine (sorted_waysToFiles node).imp_of_mem fun {way way'} hway hway' before => ?_
    exact Path.before_below (names way hway) (names way' hway') before

/-- The first file found is the least one. -/
theorem head?_findFiles_iff (proper : t.Proper) (directory : t.isDirectory p) :
    (t.findFiles p accept).value.head? = some q ↔
      Path.Least (fun q => t.Sees p q ∧ accept q) q := by
  have first := Path.find?_eq_some_iff_least (p := q) (sorted_findFiles proper p accept)
    fun _ => true
  simp only [mem_findFiles_iff accept directory, and_true] at first
  rw [← first]
  cases (t.findFiles p accept).value <;> rfl

/-- Among files that a walk comes to, one of every kind that there is comes first. -/
theorem exists_least (proper : t.Proper) (Wanted : Path → Prop)
    (some : ∃ q, t.Reaches p q ∧ Wanted q) :
    ∃ q, Path.Least (fun q => t.Reaches p q ∧ Wanted q) q := by
  classical
  have sorted := sorted_findFiles proper p fun q => decide (Wanted q)
  obtain ⟨q, reached, wanted⟩ := some
  have member : q ∈ (t.findFiles p fun q => decide (Wanted q)).value :=
    mem_findFiles_iff_reaches.2 ⟨reached, decide_eq_true wanted⟩
  have found : ((t.findFiles p fun q => decide (Wanted q)).value.find? fun _ => true).isSome :=
    List.find?_isSome.2 ⟨q, member, rfl⟩
  obtain ⟨first, found⟩ := Option.isSome_iff_exists.1 found
  refine ⟨first, ?_⟩
  simpa [mem_findFiles_iff_reaches] using (Path.find?_eq_some_iff_least sorted _).1 found

end FileTree
end DataShelf.Files
