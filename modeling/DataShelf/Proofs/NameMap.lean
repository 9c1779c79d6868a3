import DataShelf.Catalog.Table

/-!
# Laws of maps from names

The entries of a map are sorted, so each name has one value and looking a name up finds it
(`get?_eq_some_iff`), and maps in which every name is looked up alike are equal (`ext_get?`). A map
is keyed by a part of its values if each stands under that part of it (`KeyedBy`); putting a value
under that part of it keeps this.
-/

namespace DataShelf.Catalog.NameMap
set_option autoImplicit false

variable {α : Type} {m m' : NameMap α}

/-- A name has one value. -/
theorem unique {name : String} {a b : α} (ha : (name, a) ∈ m.entries) (hb : (name, b) ∈ m.entries) :
    a = b := by
  have sorted := m.sorted
  generalize m.entries = l at *
  induction l with
  | nil => cases ha
  | cons head rest ih =>
    have above := (List.pairwise_cons.1 sorted).1
    rcases List.mem_cons.1 ha with here | later <;> rcases List.mem_cons.1 hb with here' | later'
    · exact (Prod.mk.inj (here.trans here'.symm)).2
    · exact absurd (above _ later') (by simp [← here])
    · exact absurd (above _ later) (by simp [← here'])
    · exact ih later later' (List.pairwise_cons.1 sorted).2

/-- What is found under a name is an entry of it. -/
theorem get?_eq_some_iff {name : String} {a : α} :
    m.get? name = some a ↔ (name, a) ∈ m.entries := by
  constructor
  · intro found
    obtain ⟨⟨n, b⟩, entry, rfl⟩ := Option.map_eq_some_iff.1 found
    have same : n = name := by simpa using List.find?_some entry
    subst same
    exact List.mem_of_find?_eq_some entry
  · intro member
    have known : (m.entries.find? fun e => e.1 == name).isSome :=
      List.find?_isSome.2 ⟨_, member, by simp⟩
    obtain ⟨⟨n, b⟩, found⟩ := Option.isSome_iff_exists.1 known
    have same : n = name := by simpa using List.find?_some found
    subst same
    rw [get?, found, Option.map_some, unique member (List.mem_of_find?_eq_some found)]

theorem mem_values_of_get? {name : String} {a : α} (found : m.get? name = some a) : a ∈ m.values :=
  List.mem_map.2 ⟨_, get?_eq_some_iff.1 found, rfl⟩

/-- The entries of a map with one more are that one and entries of the map. -/
theorem mem_insert {name : String} {a : α} {e : String × α} (h : e ∈ (m.insert name a).entries) :
    e = (name, a) ∨ e ∈ m.entries :=
  mem_insertEntry h

/-- The values of a map with one more are that one and values of the map. -/
theorem mem_values_insert {name : String} {a b : α} (h : b ∈ (m.insert name a).values) :
    b = a ∨ b ∈ m.values := by
  obtain ⟨e, member, rfl⟩ := List.mem_map.1 h
  rcases mem_insert member with rfl | old
  · exact .inl rfl
  · exact .inr (List.mem_map.2 ⟨e, old, rfl⟩)

/-- An entry that is put in is found under its name, and every other name is found as before. -/
theorem find?_insertEntry (name : String) (a : α) (l : List (String × α)) (wanted : String) :
    (insertEntry name a l).find? (fun e => e.1 == wanted) =
      if wanted = name then some (name, a) else l.find? fun e => e.1 == wanted := by
  induction l with
  | nil => by_cases same : wanted = name <;> simp [insertEntry, same, Ne.symm]
  | cons head rest ih =>
    obtain ⟨n, b⟩ := head
    rw [insertEntry]
    split
    · by_cases same : wanted = name <;> simp [same, Ne.symm]
    split
    · next here =>
      subst here
      by_cases same : wanted = name <;> simp [same, Ne.symm]
    · next here =>
      by_cases found : n = wanted
      · subst found
        simp [Ne.symm here]
      · simp [found, ih]

/-- What is put in is found under its name, and every other name is found as before. -/
theorem get?_insert (m : NameMap α) (name : String) (a : α) (wanted : String) :
    (m.insert name a).get? wanted = if wanted = name then some a else m.get? wanted := by
  rw [get?, insert, find?_insertEntry]
  split <;> rfl

theorem get?_empty (name : String) : (empty : NameMap α).get? name = none := rfl

/-- Maps that have the same values under all names are equal. -/
theorem ext_get? (same : ∀ name, m.get? name = m'.get? name) : m = m' := by
  have members (e : String × α) : e ∈ m.entries ↔ e ∈ m'.entries := by
    rw [← get?_eq_some_iff, ← get?_eq_some_iff, same]
  have strict {a b : String × α} (h : a.1 < b.1) : a ≠ b := fun eq =>
    String.lt_irrefl _ (eq ▸ h)
  obtain ⟨l, sorted⟩ := m
  obtain ⟨l', sorted'⟩ := m'
  have perm : l.Perm l' :=
    (List.perm_ext_iff_of_nodup (sorted.imp strict) (sorted'.imp strict)).2 members
  have order (a b : String × α) (_ : a ∈ l) (_ : b ∈ l') (h : a.1 < b.1) (h' : b.1 < a.1) : a = b :=
    absurd (String.lt_trans h h') (String.lt_irrefl _)
  obtain rfl := perm.eq_of_pairwise order sorted sorted'
  rfl

/-- A map with entries is one in which something is found. -/
theorem isEmpty_eq_false_iff : m.isEmpty = false ↔ ∃ name a, m.get? name = some a := by
  obtain ⟨entries, sorted⟩ := m
  simp only [get?_eq_some_iff, isEmpty]
  cases entries with
  | nil => simp
  | cons e rest => simpa using ⟨e.1, e.2, .inl rfl⟩

/-- The names of a map are those under which something is found. -/
theorem mem_names_iff {name : String} : name ∈ m.names ↔ (m.get? name).isSome := by
  rw [Option.isSome_iff_exists, names, List.mem_map]
  simp only [get?_eq_some_iff]
  exact ⟨fun ⟨e, member, same⟩ => ⟨e.2, same ▸ member⟩, fun ⟨a, member⟩ => ⟨_, member, rfl⟩⟩

/-- A map of entries with different names has the values of the entries. -/
theorem get?_ofEntries {l : List (String × α)} (once : (l.map (·.1)).Nodup) (name : String) :
    (ofEntries l).get? name = (l.find? fun e => e.1 == name).map (·.2) := by
  suffices built : ∀ m : NameMap α, (l.foldl (fun m e => m.insert e.1 e.2) m).get? name =
      ((l.find? fun e => e.1 == name).map (·.2)).or (m.get? name) by
    rw [ofEntries, built, get?_empty, Option.or_none]
  induction l with
  | nil => exact fun m => rfl
  | cons e rest ih =>
    intro m
    obtain ⟨fresh, once⟩ := List.nodup_cons.1 once
    rw [List.foldl_cons, ih once, get?_insert]
    by_cases same : e.1 = name
    · have later : (rest.find? fun e => e.1 == name) = none :=
        List.find?_eq_none.2 fun e' member found =>
          fresh (List.mem_map.2 ⟨e', member, by simpa [same] using found⟩)
      simp [later, same]
    · simp [same, Ne.symm same]

@[simp] theorem isEmpty_insert (name : String) (a : α) : (m.insert name a).isEmpty = false := by
  obtain ⟨entries, sorted⟩ := m
  cases entries with
  | nil => rfl
  | cons head rest =>
    simp only [insert, isEmpty, insertEntry]
    split
    · rfl
    · split <;> rfl

/-- Each value stands under a part of itself. -/
def KeyedBy (m : NameMap α) (key : α → String) : Prop := ∀ e ∈ m.entries, key e.2 = e.1

theorem keyedBy_empty (key : α → String) : (empty : NameMap α).KeyedBy key :=
  fun _ member => absurd member List.not_mem_nil

/-- A map stays keyed by names when a value comes in under its own. -/
theorem KeyedBy.insert {key : α → String} (h : m.KeyedBy key) {name : String} {a : α}
    (same : key a = name) : (m.insert name a).KeyedBy key := by
  intro e member
  rcases mem_insert member with rfl | old
  · exact same
  · exact h e old

/-- A value of a map that is keyed by names is an entry under its name. -/
theorem KeyedBy.mem_entries {key : α → String} (h : m.KeyedBy key) {a : α} (member : a ∈ m.values) :
    (key a, a) ∈ m.entries := by
  obtain ⟨⟨name, b⟩, entry, rfl⟩ := List.mem_map.1 member
  rw [h _ entry]
  exact entry

theorem KeyedBy.get? {key : α → String} (h : m.KeyedBy key) {a : α} (member : a ∈ m.values) :
    m.get? (key a) = some a :=
  get?_eq_some_iff.2 (h.mem_entries member)

theorem KeyedBy.key_of_get? {key : α → String} (h : m.KeyedBy key) {name : String} {a : α}
    (found : m.get? name = some a) : key a = name :=
  h _ (get?_eq_some_iff.1 found)

/-- The keys of the values are the names of the map. -/
theorem KeyedBy.map_values {key : α → String} (h : m.KeyedBy key) : m.values.map key = m.names := by
  rw [values, names, List.map_map]
  exact List.map_congr_left h

end DataShelf.Catalog.NameMap
