import DataShelf.Proofs.NameMap
import DataShelf.Proofs.Trace
import Mathlib.Data.List.Induction

/-!
# What a map of sources holds

A map of sources is told by the tables that it has under two names (`SourceMap.pairs`) and by where
its sources lie. Maps that list the same tables, with their sources at the same places, are equal
(`SourceMap.Lists.unique`). A loop that adds what it makes of each item, unless its name is taken,
ends with all that was made (`NameMap.get?_foldlM`), as long as nothing else is made under the same
name.
-/

namespace DataShelf.Catalog
set_option autoImplicit false

open Files (Path)

/-! ### Loops that fill a map -/

namespace NameMap

variable {α γ σ : Type} {key : α → String}

/-- What is made of an item is added to a map under its key, unless the key is taken. -/
inductive Adds (key : α → String) : Option α → NameMap α → NameMap α → Prop
  | nothing (m : NameMap α) : Adds key none m m
  | new (a : α) (m : NameMap α) : Adds key (some a) m (m.insert (key a) a)
  | taken {a : α} {m : NameMap α} (known : (m.get? (key a)).isSome) : Adds key (some a) m m

/-- A loop that adds what is made of each item to a map ends with what was made of all of them. What
is made under one name has to be the same, for it does not matter here which of it stays. -/
theorem get?_foldlM (Keeps : σ → Prop) (view : σ → NameMap α) {make : γ → Option α}
    {f : σ → γ → Traced σ} {s : σ} {l : List γ} (start : Keeps s) (empty : view s = .empty)
    (step : ∀ s, Keeps s → ∀ c ∈ l,
      Keeps (f s c).value ∧ Adds key (make c) (view s) (view (f s c).value))
    (agree : ∀ c ∈ l, ∀ c' ∈ l, ∀ a a', make c = some a → make c' = some a' → key a = key a' →
      a = a') :
    Keeps (l.foldlM f s).value ∧ ∀ name a, (view (l.foldlM f s).value).get? name = some a ↔
      key a = name ∧ ∃ c ∈ l, make c = some a := by
  induction l using List.reverseRecOn with
  | nil =>
    refine ⟨start, fun name a => ?_⟩
    rw [List.foldlM_nil, Traced.value_pure, empty, get?_empty]
    simp
  | append_singleton l c ih =>
    have before {c' : γ} (member : c' ∈ l) : c' ∈ l ++ [c] := List.mem_append_left _ member
    have last : c ∈ l ++ [c] := List.mem_append_right _ List.mem_cons_self
    obtain ⟨keeps, found⟩ := ih (fun s hs c' member => step s hs c' (before member))
      fun c' member c'' member' => agree c' (before member) c'' (before member')
    obtain ⟨keeps', added⟩ := step _ keeps c last
    rw [Traced.foldlM_snoc, Traced.value_bind]
    refine ⟨keeps', fun name a => ?_⟩
    have listed : (∃ c' ∈ l ++ [c], make c' = some a) ↔
        (∃ c' ∈ l, make c' = some a) ∨ make c = some a := by simp [or_and_right, exists_or]
    rw [listed]
    generalize made : make c = new at added
    generalize view (f _ c).value = m' at added
    cases added with
    | nothing => simp [found]
    | new b =>
      rw [get?_insert]
      split
      · next here =>
        subst here
        constructor
        · rintro ⟨⟩
          exact ⟨rfl, .inr rfl⟩
        · rintro ⟨same, ⟨c', member, made'⟩ | here⟩
          · rw [agree c' (before member) c last a b made' made same]
          · exact here
      · next other =>
        rw [found]
        refine and_congr_right fun same => (or_iff_left ?_).symm
        rintro ⟨⟩
        exact other same.symm
    | @taken b _ known =>
      obtain ⟨b', there⟩ := Option.isSome_iff_exists.1 known
      obtain ⟨same, c', member, made'⟩ := (found _ _).1 there
      obtain rfl := agree c' (before member) c last b' b made' made same
      rw [found]
      refine and_congr_right fun _ => (or_iff_left_of_imp ?_).symm
      rintro ⟨⟩
      exact ⟨c', member, made'⟩

end NameMap

/-! ### Maps of sources -/

namespace SourceMap

variable {m m' : SourceMap} {Located Located' : String → Path → Prop}
  {Listed Listed' : String → String → Table → Prop}

/-- The table under two names. -/
def table? (m : SourceMap) (source table : String) : Option Table :=
  (m.get? source).bind fun s => s.tables.get? table

/-- The names of all tables with those of their sources, in order. -/
def pairs (m : SourceMap) : List (String × String) :=
  m.entries.flatMap fun e => e.2.tables.names.map fun table => (e.1, table)

/-- The pairs of a map are the names under which it has tables. -/
theorem mem_pairs_iff {source table : String} :
    (source, table) ∈ m.pairs ↔ (m.table? source table).isSome := by
  rw [pairs, List.mem_flatMap, Option.isSome_iff_exists]
  constructor
  · rintro ⟨e, entry, member⟩
    obtain ⟨n, inside, same⟩ := List.mem_map.1 member
    obtain ⟨rfl, rfl⟩ := Prod.mk.inj same
    obtain ⟨tb, found⟩ := Option.isSome_iff_exists.1 (NameMap.mem_names_iff.1 inside)
    exact ⟨tb, by simp [table?, NameMap.get?_eq_some_iff.2 entry, found]⟩
  · rintro ⟨tb, found⟩
    obtain ⟨s, known, inside⟩ := Option.bind_eq_some_iff.1 found
    refine ⟨(source, s), NameMap.get?_eq_some_iff.1 known, List.mem_map.2 ⟨table, ?_, rfl⟩⟩
    exact NameMap.mem_names_iff.2 (inside ▸ rfl)

/-- No two tables have the same two names. -/
theorem nodup_pairs (m : SourceMap) : m.pairs.Nodup := by
  rw [pairs, List.Nodup, List.pairwise_flatMap]
  refine ⟨fun e _ => ?_, m.sorted.imp fun before x hx y hy => ?_⟩
  · refine List.pairwise_map.2 (List.pairwise_map.2 (e.2.tables.sorted.imp fun before same => ?_))
    exact String.lt_irrefl _ ((Prod.mk.inj same).2 ▸ before)
  · obtain ⟨_, -, rfl⟩ := List.mem_map.1 hx
    obtain ⟨_, -, rfl⟩ := List.mem_map.1 hy
    exact fun same => String.lt_irrefl _ ((Prod.mk.inj same).1 ▸ before)

theorem table?_insert (m : SourceMap) (name : String) (s : Source) (source table : String) :
    table? (m.insert name s) source table =
      if source = name then s.tables.get? table else m.table? source table := by
  rw [table?, NameMap.get?_insert]
  split <;> rfl

/-- The map has the listed tables under their names and no others. Each source stands under its own
name, lies where it is located, and has a table. -/
structure Lists (m : SourceMap) (Located : String → Path → Prop)
    (Listed : String → String → Table → Prop) : Prop where
  keyed : m.KeyedBy Source.name
  filled : ∀ s ∈ m.values, s.tables.isEmpty = false
  located : ∀ s ∈ m.values, Located s.name s.path
  listed : ∀ source table tb, m.table? source table = some tb ↔ Listed source table tb

theorem Lists.name_of_get? (h : m.Lists Located Listed) {name : String} {s : Source}
    (found : m.get? name = some s) : s.name = name :=
  h.keyed _ (NameMap.get?_eq_some_iff.1 found)

/-- Each source of the map has a listed table. -/
theorem Lists.exists_listed (h : m.Lists Located Listed) {name : String} {s : Source}
    (found : m.get? name = some s) : ∃ table tb, Listed name table tb := by
  obtain ⟨table, tb, inside⟩ :=
    NameMap.isEmpty_eq_false_iff.1 (h.filled s (NameMap.mem_values_of_get? found))
  exact ⟨table, tb, (h.listed name table tb).1 (by simp [table?, found, inside])⟩

/-- A source is in every map that lists the same tables. -/
theorem Lists.get?_of_get? (h : m.Lists Located Listed) (h' : m'.Lists Located' Listed')
    (listed : ∀ source table tb, Listed source table tb ↔ Listed' source table tb)
    (located : ∀ source table tb p p', Listed source table tb → Located source p →
      Located' source p' → p = p')
    {name : String} {s : Source} (found : m.get? name = some s) : m'.get? name = some s := by
  have named := h.name_of_get? found
  obtain ⟨table, tb, there⟩ := h.exists_listed found
  obtain ⟨s', found', -⟩ := Option.bind_eq_some_iff.1 ((h'.listed name table tb).2
    ((listed name table tb).1 there))
  have named' := h'.name_of_get? found'
  have path : s.path = s'.path :=
    located name table tb s.path s'.path there
      (named ▸ h.located s (NameMap.mem_values_of_get? found))
      (named' ▸ h'.located s' (NameMap.mem_values_of_get? found'))
  have tables : s.tables = s'.tables := by
    refine NameMap.ext_get? fun table => Option.ext fun tb => ?_
    have same : m.table? name table = some tb ↔ m'.table? name table = some tb :=
      (h.listed name table tb).trans ((listed name table tb).trans (h'.listed name table tb).symm)
    simpa [table?, found, found'] using same
  rw [found']
  obtain ⟨n, p, ts⟩ := s
  obtain ⟨n', p', ts'⟩ := s'
  simp_all

/-- Maps that list the same tables, with the sources at the same places, are equal. -/
theorem Lists.unique (h : m.Lists Located Listed) (h' : m'.Lists Located' Listed')
    (listed : ∀ source table tb, Listed source table tb ↔ Listed' source table tb)
    (located : ∀ source table tb p p', Listed source table tb → Located source p →
      Located' source p' → p = p') : m = m' := by
  refine NameMap.ext_get? fun name => Option.ext fun s =>
    ⟨h.get?_of_get? h' listed located,
      h'.get?_of_get? h (fun source table tb => (listed source table tb).symm) ?_⟩
  intro source table tb p p' there here here'
  exact (located source table tb p' p ((listed source table tb).2 there) here' here).symm

end SourceMap

end DataShelf.Catalog
