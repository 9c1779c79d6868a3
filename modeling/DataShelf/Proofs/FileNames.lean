import DataShelf.Catalog.Table
import DataShelf.Proofs.Octets
import DataShelf.Proofs.PathParts

/-!
# The ends of paths

What is appended to the text of a path is appended to its last part (`splitSlashes_append`), and the
last part of a path, if it is a name, is its file name (`fileName?_concat`). What stands above a name
below such a path is that path (`EndsInName.parent?_child`). A path that is spelled with an extension at
its end has no other extension (`hasExtension_joinText`), and no path has two (`hasExtension_unique`).
-/

namespace DataShelf.Files
set_option autoImplicit false

namespace Path

/-- Octets without a slash are one name. -/
theorem splitSlashes_of_clean {bytes : List UInt8} (clean : 47 ∉ bytes) :
    splitSlashes bytes = [⟨bytes⟩] := by
  induction bytes with
  | nil => rfl
  | cons b rest ih =>
    simp only [List.mem_cons, not_or] at clean
    simp [splitSlashes, ih clean.2, Ne.symm clean.1]

/-- What is appended without a slash belongs to the last part. -/
theorem splitSlashes_append {ending : List UInt8} (clean : 47 ∉ ending) (bytes : List UInt8) :
    ∃ front last, splitSlashes bytes = front ++ [last] ∧
      splitSlashes (bytes ++ ending) = front ++ [⟨last.octets ++ ending⟩] := by
  induction bytes with
  | nil => exact ⟨[], ⟨[]⟩, rfl, by simpa using splitSlashes_of_clean clean⟩
  | cons b rest ih =>
    obtain ⟨front, last, before, after⟩ := ih
    rw [List.cons_append, splitSlashes, splitSlashes, before, after]
    cases front with
    | nil =>
      by_cases slash : b = 47
      · exact ⟨[⟨[]⟩], last, by simp [slash], by simp [slash]⟩
      · exact ⟨[], ⟨b :: last.octets⟩, by simp [slash], by simp [slash]⟩
    | cons first front =>
      by_cases slash : b = 47
      · exact ⟨⟨[]⟩ :: first :: front, last, by simp [slash], by simp [slash]⟩
      · exact ⟨⟨b :: first.octets⟩ :: front, last, by simp [slash], by simp [slash]⟩

/-- A path ends in its last name, unless that is left out or goes up. -/
theorem fileName?_concat (front : List Name) {n : Name} (real : n.isIdle = false)
    (up : n ≠ Name.dotDot) : fileName? ⟨front ++ [n]⟩ = some n := by
  have counts : componentOf? n = some (.normal n) := by simp [componentOf?, real, up]
  have known : n ≠ Name.empty ∧ n ≠ Name.dot := by simpa [Name.isIdle] using real
  cases front with
  | nil => simp [fileName?, components, counts, known.1, known.2]
  | cons first front => simp [fileName?, components, counts, List.getLast?_append]

theorem fileName?_child {n : Name} (p : Path) (real : n.isIdle = false) (up : n ≠ Name.dotDot) :
    (p.child n).fileName? = some n := by
  rw [← fileName?_concat p.parts real up, ← segments_child]

/-- The path above a name is the one before it, without idle parts at its end. -/
theorem parent?_concat {n : Name} (real : n.isIdle = false) (first : Name) (front : List Name) :
    parent? ⟨first :: (front ++ [n])⟩ =
      match (front.reverse ++ [first]).dropWhile Name.isIdle with
      | [] => if first == Name.empty then some ⟨[Name.empty, Name.empty]⟩ else some ⟨[first]⟩
      | kept => some ⟨kept.reverse⟩ := by
  have trimmed : trimmedReverse (first :: (front ++ [n])) = n :: (front.reverse ++ [first]) := by
    simp [trimmedReverse, real]
  obtain ⟨last, before, reversed⟩ := List.exists_cons_of_ne_nil (l := front.reverse ++ [first])
    (by simp)
  rw [reversed]
  cases kept : (last :: before).dropWhile Name.isIdle with
  | nil => simp only [parent?, trimmed, reversed, kept]
  | cons m others => simp only [parent?, trimmed, reversed, kept]

/-- A path whose last part is a name. -/
def EndsInName (p : Path) : Prop :=
  ∃ above n, n.isIdle = false ∧ n ≠ Name.dotDot ∧ p = child above n

/-- The path above a name that is put below it. -/
theorem EndsInName.parent?_child {p : Path} {n : Name} (h : p.EndsInName) (real : n.isIdle = false) :
    (p.child n).parent? = some p := by
  obtain ⟨above, m, idle, -, rfl⟩ := h
  have named : m ≠ Name.empty := by
    rintro rfl
    exact absurd idle (by decide)
  have whole : child above m = ⟨above.parts ++ [m]⟩ := congrArg mk (segments_child above m)
  have below : (child above m).child n = ⟨(above.parts ++ [m]) ++ [n]⟩ := by
    rw [← parts_child above named]
    exact congrArg mk (segments_child _ n)
  obtain ⟨first, front, cut⟩ := List.exists_cons_of_ne_nil (l := above.parts ++ [m]) (by simp)
  have kept : (front.reverse ++ [first]).dropWhile Name.isIdle = m :: above.parts.reverse := by
    rw [← List.reverse_cons, ← cut, List.reverse_concat, List.dropWhile_cons_of_neg (by simp [idle])]
  rw [below, whole, cut, List.cons_append, parent?_concat real, kept, ← cut]
  simp

/-- What is joined to a path is at its end. -/
theorem segments_join (p q : Path) : ∃ front, (p.join q).segments = front ++ q.segments := by
  unfold join
  split
  · exact ⟨[], rfl⟩
  · split
    · exact ⟨_, rfl⟩
    · exact ⟨_, rfl⟩

end Path

namespace Name

/-- A name is the text that it was made of, and no other. -/
theorem text?_eq_some_iff {n : Name} {s : String} : n.text? = some s ↔ n = .ofString s := by
  constructor
  · intro h
    rw [ofString, Text.octets_of_ofOctets? h]
  · rintro rfl
    exact text?_ofString s

theorem ofString_injective {s u : String} (h : ofString s = ofString u) : s = u := by
  have same := text?_ofString s
  rw [h, text?_ofString] at same
  exact (Option.some.inj same).symm

section Extension

variable {extension : List UInt8} (before : List UInt8)

theorem dotted_isIdle (filled : extension ≠ []) :
    isIdle ⟨before ++ 46 :: extension⟩ = false := by
  cases before <;> simp [isIdle, empty, dot, filled]

/-- A name with a dot and something behind it does not go up. -/
theorem dotted_ne_dotDot (clean : 46 ∉ extension) (filled : extension ≠ []) :
    (⟨before ++ 46 :: extension⟩ : Name) ≠ dotDot := by
  intro same
  have bytes : before ++ 46 :: extension = [46, 46] := congrArg octets same
  have last : extension.getLast? = some 46 := by
    have whole := congrArg List.getLast? bytes
    cases extension with
    | nil => exact absurd rfl filled
    | cons b rest => simpa [List.getLast?_append, List.getLast?_cons_cons] using whole
  exact clean (List.mem_of_getLast? last)

/-- The extension is what stands behind the last dot, where something stands before it. -/
theorem extension?_of_dot (clean : 46 ∉ extension) (filled : extension ≠ []) :
    extension? ⟨before ++ 46 :: extension⟩ = if before.isEmpty then none else some ⟨extension⟩ := by
  have other := dotted_ne_dotDot before clean filled
  have behind : ∀ b ∈ extension.reverse, (b != 46) = true := by
    intro b hb
    simpa using fun same : b = 46 => clean (same ▸ List.mem_reverse.1 hb)
  have reversed : (before ++ 46 :: extension).reverse =
      extension.reverse ++ 46 :: before.reverse := by simp
  simp only [extension?, splitExtension, beq_iff_eq, other, if_false, reversed]
  rw [List.takeWhile_append_of_pos behind, List.dropWhile_append_of_pos behind]
  cases before <;> simp

end Extension
end Name

/-- A path does not have two extensions. -/
theorem Path.hasExtension_unique {p : Path} {s u : String} (hs : p.hasExtension s)
    (hu : p.hasExtension u) :
    (Text.octets s).map Name.lowerOctet = (Text.octets u).map Name.lowerOctet := by
  unfold Path.hasExtension Name.hasExtension at hs hu
  split at hs
  · split at hs
    · simp_all
    · cases hs
  · cases hs

theorem octets_dotted (name s : String) :
    Text.octets (name ++ "." ++ s) = Text.octets name ++ 46 :: Text.octets s := by
  rw [Text.octets_append, Text.octets_append, List.append_assoc]
  rfl

/-- A name that is spelled with an extension at its end is a real one. -/
theorem Name.dotted_counts {name s : String} (dot : 46 ∉ Text.octets s)
    (filled : Text.octets s ≠ []) :
    (ofString (name ++ "." ++ s)).isIdle = false ∧ ofString (name ++ "." ++ s) ≠ dotDot := by
  rw [ofString, octets_dotted]
  exact ⟨dotted_isIdle _ filled, dotted_ne_dotDot _ dot filled⟩

/-- A name that is spelled with an extension at its end has this one, if there is something before
it. -/
theorem Path.hasExtension_child_iff {p : Path} {name s u : String} (named : Text.octets name ≠ [])
    (dot : 46 ∉ Text.octets s) (filled : Text.octets s ≠ []) :
    (p.child (.ofString (name ++ "." ++ s))).hasExtension u ↔
      (Text.octets s).map Name.lowerOctet = (Text.octets u).map Name.lowerOctet := by
  obtain ⟨real, up⟩ := Name.dotted_counts dot filled
  have known : (p.child (.ofString (name ++ "." ++ s))).fileName? =
      some ⟨Text.octets name ++ 46 :: Text.octets s⟩ := by
    rw [fileName?_child p real up, Name.ofString, octets_dotted]
  have extension : Name.extension? ⟨Text.octets name ++ 46 :: Text.octets s⟩ =
      some ⟨Text.octets s⟩ := by
    rw [Name.extension?_of_dot _ dot filled]
    exact if_neg (by simpa using named)
  simp [Path.hasExtension, known, Name.hasExtension, extension, Name.text?, Text.ofOctets?_octets]

/-- A path that is spelled with an extension at its end has no other one. -/
theorem Path.hasExtension_joinText {p : Path} {name s u : String} (slash : 47 ∉ Text.octets s)
    (dot : 46 ∉ Text.octets s) (filled : Text.octets s ≠ [])
    (h : (p.joinText (name ++ "." ++ s)).hasExtension u) :
    (Text.octets s).map Name.lowerOctet = (Text.octets u).map Name.lowerOctet := by
  have clean : 47 ∉ 46 :: Text.octets s := by simp [slash]
  obtain ⟨before, last, -, cut⟩ := splitSlashes_append clean (Text.octets name)
  obtain ⟨front, joined⟩ := segments_join p (ofString (name ++ "." ++ s))
  have segments : (p.joinText (name ++ "." ++ s)).segments =
      (front ++ before) ++ [⟨last.octets ++ 46 :: Text.octets s⟩] := by
    rw [joinText, joined, ofString, ofOctets, octets_dotted, cut, List.append_assoc]
  have named : (p.joinText (name ++ "." ++ s)).fileName? =
      some ⟨last.octets ++ 46 :: Text.octets s⟩ := by
    have found := fileName?_concat (front ++ before) (Name.dotted_isIdle last.octets filled)
      (Name.dotted_ne_dotDot last.octets dot filled)
    rwa [← segments] at found
  simp only [Path.hasExtension, named, Name.hasExtension,
    Name.extension?_of_dot last.octets dot filled] at h
  by_cases bare : last.octets.isEmpty
  · simp [bare] at h
  · simpa [bare, Name.text?, Text.ofOctets?_octets] using h

end DataShelf.Files

namespace DataShelf.Catalog.TableKind

open Files (Path)

theorem ofPath_of_sql {p : Path} (h : p.hasExtension sqlExtension) : ofPath p = .sqlScript :=
  if_pos h

theorem ofPath_of_parquet {p : Path} (h : p.hasExtension parquetExtension) : ofPath p = .parquet :=
  if_neg fun sql => absurd (Path.hasExtension_unique h sql) (by decide)

/-- The kind of a data file that a manifest names. -/
theorem ofPath_joinText (p : Path) (name : String) :
    ofPath (p.joinText (name ++ "." ++ parquetExtension)) = .parquet :=
  if_neg fun sql =>
    absurd (Path.hasExtension_joinText (by decide) (by decide) (by decide) sql) (by decide)

end DataShelf.Catalog.TableKind
