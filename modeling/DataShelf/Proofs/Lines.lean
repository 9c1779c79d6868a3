import DataShelf.Proofs.Octets
import DataShelf.Server.Loop
import Mathlib.Data.List.Basic

/-!
# Lines of a stream

Every stream of octets is a last line without an end, or a line, a line feed and another stream
(`marked_induction`). What follows the end of a line has its lines to itself (`linesOf_append`), and
a line feed at the end makes no difference but for a blank line (`linesOf_lineFeed`), unless there is
a carriage return before it.
-/

namespace DataShelf.Server
set_option autoImplicit false

/-- Nothing, or something that ends in a line feed. -/
def Ended (bytes : List UInt8) : Prop := bytes = [] ∨ bytes.getLast? = some 10

variable {line rest a b : List UInt8}

/-- A list is one without a mark, or such a one, the mark and another list. -/
theorem marked_induction {α : Type} (mark : α) {P : List α → Prop}
    (last : ∀ l, mark ∉ l → P l) (more : ∀ l rest, mark ∉ l → P rest → P (l ++ mark :: rest))
    (l : List α) : P l := by
  induction h : l.length using Nat.strongRecOn generalizing l with
  | ind n ih =>
    by_cases broken : mark ∈ l
    · obtain ⟨front, rest, rfl, unbroken⟩ := List.eq_append_cons_of_mem broken
      have shorter : rest.length < n := by
        rw [← h, List.length_append, List.length_cons]
        omega
      exact more front rest unbroken (ih _ shorter rest rfl)
    · exact last l broken

theorem isLineFeed_of_unbroken (unbroken : 10 ∉ line) : ∀ b ∈ line, (!isLineFeed b) = true := by
  intro b member
  have other : b ≠ 10 := fun same => unbroken (same ▸ member)
  simpa [isLineFeed] using other

/-- Octets without a line feed are one line, or none if they are empty. -/
theorem linesOf_of_unbroken (unbroken : 10 ∉ line) :
    linesOf line = if line.isEmpty then [] else [line] := by
  have all := isLineFeed_of_unbroken unbroken
  have behind : (line ++ []).dropWhile (fun b => !isLineFeed b) = [] :=
    List.dropWhile_append_of_pos all
  have front : (line ++ []).takeWhile (fun b => !isLineFeed b) = line ++ [] :=
    List.takeWhile_append_of_pos all
  rw [List.append_nil] at behind front
  rw [linesOf]
  split
  · next h => simp [behind] at h
  · rw [front]

/-- A line ends at the first line feed. -/
theorem linesOf_cons (unbroken : 10 ∉ line) (rest : List UInt8) :
    linesOf (line ++ 10 :: rest) = dropReturn line :: linesOf rest := by
  have all := isLineFeed_of_unbroken unbroken
  have feed : (!isLineFeed 10) = false := rfl
  have behind : (line ++ 10 :: rest).dropWhile (fun b => !isLineFeed b) = 10 :: rest := by
    rw [List.dropWhile_append_of_pos all, List.dropWhile_cons_of_neg (by simp [feed])]
  have front : (line ++ 10 :: rest).takeWhile (fun b => !isLineFeed b) = line := by
    rw [List.takeWhile_append_of_pos all, List.takeWhile_cons_of_neg (by simp [feed]),
      List.append_nil]
  rw [linesOf]
  split
  · next h =>
    rw [behind] at h
    obtain ⟨-, rfl⟩ := List.cons.inj h
    rw [front]
  · next h => simp [behind] at h

@[simp] theorem linesOf_nil : linesOf [] = [] := linesOf_of_unbroken (by simp)

theorem dropReturn_of_ne (other : line.getLast? ≠ some 13) : dropReturn line = line := by
  simp [dropReturn, other]

/-- The last octet of two lines is that of the second, unless this is empty. -/
theorem getLast?_line (line rest : List UInt8) (b : UInt8) :
    (line ++ b :: rest).getLast? = if rest = [] then some b else rest.getLast? := by
  rw [List.getLast?_append_cons]
  cases rest <;> simp

/-- What is behind a line that ended has ended too. -/
theorem Ended.behind (ended : Ended (line ++ 10 :: rest)) : Ended rest := by
  by_cases empty : rest = []
  · exact .inl empty
  · rcases ended with none | last
    · simp at none
    · rw [getLast?_line, if_neg empty] at last
      exact .inr last

/-- What has ended and has no line feed is empty. -/
theorem Ended.eq_nil (ended : Ended line) (unbroken : 10 ∉ line) : line = [] := by
  rcases ended with empty | last
  · exact empty
  · exact absurd (List.mem_of_getLast? last) unbroken

/-- The lines of two streams, the first of which does not end within a line. -/
theorem linesOf_append (ended : Ended a) (b : List UInt8) :
    linesOf (a ++ b) = linesOf a ++ linesOf b := by
  induction a using marked_induction (10 : UInt8) with
  | last line unbroken =>
    obtain rfl := ended.eq_nil unbroken
    simp
  | more line rest unbroken ih =>
    rw [List.append_assoc, List.cons_append, linesOf_cons unbroken, linesOf_cons unbroken,
      ih ended.behind, List.cons_append]

/-- A last line that does not end in a carriage return is the same with a line feed behind it. Where
there is no last line, a line feed is a blank one. -/
theorem linesOf_lineFeed (other : a.getLast? ≠ some 13) :
    linesOf (a ++ [10]) = linesOf a ∨ linesOf (a ++ [10]) = linesOf a ++ [[]] := by
  induction a using marked_induction (10 : UInt8) with
  | last line unbroken =>
    rw [linesOf_cons unbroken, linesOf_of_unbroken unbroken, dropReturn_of_ne other]
    cases line with
    | nil => exact .inr (by simp)
    | cons b line => exact .inl (by simp)
  | more line rest unbroken ih =>
    have other' : rest.getLast? ≠ some 13 := by
      by_cases empty : rest = []
      · simp [empty]
      · rwa [getLast?_line, if_neg empty] at other
    rw [List.append_assoc, List.cons_append, linesOf_cons unbroken, linesOf_cons unbroken]
    rcases ih other' with same | blank
    · exact .inl (by rw [same])
    · exact .inr (by rw [blank, List.cons_append])

/-! ### Lines of a text -/

/-- Encoded characters are decoded to the text of them. -/
theorem ofOctets?_flatMap (cs : List Char) :
    Text.ofOctets? (cs.flatMap String.utf8EncodeChar) = some (String.ofList cs) := by
  rw [← Text.ofOctets?_octets (String.ofList cs), Text.octets_eq_flatMap, String.toList_ofList]

theorem feed_mem_iff {cs : List Char} : 10 ∈ cs.flatMap String.utf8EncodeChar ↔ '\n' ∈ cs :=
  Text.mem_flatMap_utf8EncodeChar_iff (by decide) rfl

/-- The octets of a text without the carriage return at its end are those of a text. -/
theorem dropReturn_flatMap (cs : List Char) :
    ∃ cs' : List Char,
      dropReturn (cs.flatMap String.utf8EncodeChar) = cs'.flatMap String.utf8EncodeChar := by
  rcases List.eq_nil_or_concat' cs with rfl | ⟨front, c, rfl⟩
  · exact ⟨[], rfl⟩
  by_cases same : c = '\r'
  · subst same
    have back : ['\r'].flatMap String.utf8EncodeChar = [13] := by decide
    refine ⟨front, ?_⟩
    rw [List.flatMap_append, back, dropReturn]
    simp
  · have other : ((front ++ [c]).flatMap String.utf8EncodeChar).getLast? ≠ some 13 := by
      have filled : String.utf8EncodeChar c ≠ [] := String.utf8EncodeChar_ne_nil
      rw [List.flatMap_append, List.flatMap_singleton, List.getLast?_append_of_ne_nil _ filled]
      intro last
      have code := (Text.mem_utf8EncodeChar_iff (by decide)).1 (List.mem_of_getLast? last)
      exact same (Char.toNat_inj.1 code)
    exact ⟨front ++ [c], dropReturn_of_ne other⟩

/-- Every line of a text is a text. -/
theorem texts_of_text {s : String} (spelled : Text.ofOctets? a = some s) :
    ∀ bytes ∈ linesOf a, Text.ofOctets? bytes ≠ none := by
  suffices each : ∀ cs : List Char, ∀ bytes ∈ linesOf (cs.flatMap String.utf8EncodeChar),
      ∃ cs' : List Char, bytes = cs'.flatMap String.utf8EncodeChar by
    intro bytes member
    rw [← Text.octets_of_ofOctets? spelled, Text.octets_eq_flatMap] at member
    obtain ⟨cs', rfl⟩ := each _ bytes member
    simp [ofOctets?_flatMap]
  intro cs
  induction cs using marked_induction '\n' with
  | last l unbroken =>
    intro bytes member
    rw [linesOf_of_unbroken (feed_mem_iff.not.2 unbroken)] at member
    split at member
    · cases member
    · exact ⟨l, List.mem_singleton.1 member⟩
  | more l rest unbroken ih =>
    have feed : String.utf8EncodeChar '\n' = [10] := by decide
    intro bytes member
    rw [List.flatMap_append, List.flatMap_cons, feed, List.singleton_append,
      linesOf_cons (feed_mem_iff.not.2 unbroken)] at member
    rcases List.mem_cons.1 member with rfl | later
    · exact dropReturn_flatMap l
    · exact ih bytes later

end DataShelf.Server
