import DataShelf.Proofs.ObjectKeys

/-!
# What readers leave

A reader takes characters from the front of a text, so what it leaves is the end of that text
(`Leaves`). Loops over items run by a clock that is the text, and so the clock never runs out before
the text does.
-/

namespace DataShelf.Json
set_option autoImplicit false

variable {α β : Type} {cs rest : List Char}

/-- What a reading leaves is the end of a text. -/
def Leaves (cs : List Char) (r : Except Fault (α × List Char)) : Prop :=
  ∀ a rest, r = .ok (a, rest) → rest <:+ cs

/-- A fault leaves nothing. -/
theorem leaves_error (cs : List Char) (f : Fault) : Leaves cs (.error f : Reading α) := nofun

theorem leaves_stop (cs : List Char) (ahead : Nat) (flaw : Flaw) (rest : List Char) :
    Leaves cs (stopBehind ahead flaw rest : Reading α) :=
  leaves_error cs _

/-- What was taken from the front leaves the rest. -/
theorem leaves_ok (behind : rest <:+ cs) (a : α) : Leaves cs (.ok (a, rest)) := by
  rintro _ _ ⟨⟩
  exact behind

/-- What is left of a rest is left of the whole. -/
theorem Leaves.trans {r : Reading α} (h : Leaves rest r) (behind : rest <:+ cs) : Leaves cs r :=
  fun a end_ read => (h a end_ read).trans behind

/-- What is made of a value changes nothing about what is left. -/
theorem Leaves.map {r : Reading α} (h : Leaves cs r) (f : α × List Char → β) :
    Leaves cs (r.map fun p => (f p, p.2)) := by
  intro b end_ read
  obtain ⟨⟨a, rest⟩, here, same⟩ := map_eq_ok_iff.1 read
  obtain ⟨-, rfl⟩ := Prod.mk.inj same
  exact h a rest here

/-- Of two steps the second leaves something of what the first left. -/
theorem Leaves.bind {r : Except Fault (α × List Char)} (h : Leaves cs r)
    {f : α × List Char → Except Fault (β × List Char)}
    (each : ∀ a rest, Leaves rest (f (a, rest))) : Leaves cs (r >>= f) := by
  intro b end_ read
  obtain ⟨⟨a, rest⟩, here, read⟩ := bind_eq_ok_iff.1 read
  exact (each a rest b end_ read).trans (h a rest here)

theorem skipSpace_suffix (cs : List Char) : skipSpace cs <:+ cs := List.dropWhile_suffix _

/-! ### Words and texts -/

/-- A word is taken from the front. -/
theorem leaves_word (w cs : List Char) : Leaves cs (word w cs) := by
  induction w generalizing cs with
  | nil => exact leaves_ok List.suffix_rfl _
  | cons c w ih =>
    cases cs with
    | nil => exact leaves_stop _ _ _ _
    | cons c' cs =>
      rw [word]
      split
      · exact (ih cs).trans (List.suffix_cons _ _)
      · exact leaves_stop _ _ _ _

/-- Four hexadecimal digits are taken from the front. -/
theorem leaves_fourHex (cs : List Char) : Leaves cs (fourHex cs) := by
  unfold fourHex
  split
  · exact leaves_stop _ _ _ _
  · split
    · split
      · exact leaves_ok (List.drop_suffix 4 _) _
      · exact leaves_stop _ _ _ _
    · exact leaves_stop _ _ _ _

theorem leaves_takeOfPair (expected : Char) (cs : List Char) :
    Leaves cs (takeOfPair expected cs) := by
  cases cs with
  | nil => exact leaves_stop _ _ _ _
  | cons c cs =>
    rw [takeOfPair]
    split
    · exact leaves_ok (List.suffix_cons _ _) _
    · exact leaves_stop _ _ _ _

theorem leaves_unicodeEscape (cs : List Char) : Leaves cs (unicodeEscape cs) := by
  refine (leaves_fourHex cs).bind fun first rest => ?_
  dsimp only
  split
  · exact leaves_stop _ _ _ _
  · split
    · refine (leaves_takeOfPair _ rest).bind fun _ rest => ?_
      refine (leaves_takeOfPair _ rest).bind fun _ rest => ?_
      refine (leaves_fourHex rest).bind fun second rest => ?_
      dsimp only
      split
      · exact leaves_ok List.suffix_rfl _
      · exact leaves_stop _ _ _ _
    · exact leaves_ok List.suffix_rfl _

theorem leaves_escape (cs : List Char) : Leaves cs (escape cs) := by
  cases cs with
  | nil => exact leaves_stop _ _ _ _
  | cons c cs =>
    rw [escape]
    split
    · exact (leaves_unicodeEscape cs).trans (List.suffix_cons _ _)
    · split
      · exact leaves_ok (List.suffix_cons _ _) _
      · exact leaves_stop _ _ _ _

/-- The rest of a text up to its quote is taken from the front. -/
theorem leaves_textTail (clock taken cs : List Char) : Leaves cs (textTail clock taken cs) := by
  induction clock generalizing taken cs with
  | nil => exact leaves_stop _ _ _ _
  | cons tick ticks ih =>
    cases cs with
    | nil => exact leaves_stop _ _ _ _
    | cons c cs =>
      rw [textTail]
      split
      · exact leaves_ok (List.suffix_cons _ _) _
      · split
        · split
          · next e rest escaped =>
            have behind := leaves_escape cs _ _ escaped
            exact (ih _ rest).trans (behind.trans (List.suffix_cons _ _))
          · exact leaves_error _ _
        · split
          · exact leaves_stop _ _ _ _
          · exact (ih _ cs).trans (List.suffix_cons _ _)

theorem leaves_text (cs : List Char) : Leaves cs (text cs) := leaves_textTail _ _ _

/-! ### Numbers -/

section Numbers

variable {negative : Bool} {significand : Nat} {shift : Int}

/-- Digits are taken from the front. -/
theorem takeDigits_suffix (limit n taken : Nat) (cs : List Char) :
    (takeDigits limit n taken cs).2.2 <:+ cs := by
  induction cs generalizing n taken with
  | nil => exact List.suffix_rfl
  | cons c cs ih =>
    rw [takeDigits]
    split
    · exact (ih _ _).trans (List.suffix_cons _ _)
    · exact List.suffix_rfl

theorem leaves_finish (exponent : Int) (cs : List Char) :
    Leaves cs (finish negative significand exponent cs) := by
  unfold finish
  split
  · exact leaves_ok List.suffix_rfl _
  · exact leaves_stop _ _ _ _

theorem leaves_exponentTail (cs : List Char) :
    Leaves cs (exponentTail negative significand shift cs) := by
  unfold exponentTail
  split
  next below cs' signed =>
  have behind : cs' <:+ cs := by
    split at signed <;> obtain ⟨-, rfl⟩ := Prod.mk.inj signed
    · exact List.suffix_cons _ _
    · exact List.suffix_cons _ _
    · exact List.suffix_rfl
  have digits := (takeDigits_suffix exponentLimit 0 0 cs').trans behind
  dsimp only
  repeat' split
  · exact leaves_stop _ _ _ _
  · exact leaves_stop _ _ _ _
  · exact leaves_stop _ _ _ _
  · exact leaves_ok ((List.dropWhile_suffix _).trans digits) _
  · exact (leaves_finish _ _).trans digits
  · exact (leaves_finish _ _).trans digits

theorem leaves_exponentOrEnd (cs : List Char) :
    Leaves cs (exponentOrEnd negative significand shift cs) := by
  unfold exponentOrEnd
  split
  · exact (leaves_exponentTail _).trans (List.drop_suffix 1 cs)
  · exact leaves_finish _ _

theorem leaves_fractionTail (cs : List Char) :
    Leaves cs (fractionTail negative significand shift cs) := by
  have behind := takeDigits_suffix significandLimit significand 0 cs
  unfold fractionTail
  dsimp only
  split
  · exact (leaves_exponentOrEnd _).trans ((List.dropWhile_suffix _).trans behind)
  · split
    · exact leaves_stop _ _ _ _
    · exact (leaves_exponentOrEnd _).trans behind

/-- A number is taken from the front. -/
theorem leaves_number (cs : List Char) : Leaves cs (number negative cs) := by
  cases cs with
  | nil => exact leaves_stop _ _ _ _
  | cons c rest =>
    have whole := takeDigits_suffix significandLimit 0 0 (c :: rest)
    have point {cs rest : List Char} (behind : '.' :: rest <:+ cs) : rest <:+ cs :=
      (List.suffix_cons _ _).trans behind
    -- A zero stands alone; other digits are taken as far as they have room.
    have behind : (if c == '0' then (0, 1, rest) else
        takeDigits significandLimit 0 0 (c :: rest)).2.2 <:+ c :: rest := by
      split
      · exact List.suffix_cons _ _
      · exact whole
    generalize taken : (if c == '0' then (0, 1, rest) else
      takeDigits significandLimit 0 0 (c :: rest)) = r at behind
    obtain ⟨s, n, rest'⟩ := r
    simp only [number, taken]
    repeat' split
    · exact leaves_stop _ _ _ _
    · exact leaves_stop _ _ _ _
    · next same =>
      have further : '.' :: _ <:+ rest' := same ▸ List.dropWhile_suffix _
      exact (leaves_fractionTail _).trans (point (further.trans behind))
    · exact (leaves_exponentOrEnd _).trans ((List.dropWhile_suffix _).trans behind)
    · exact (leaves_fractionTail _).trans (point behind)
    · exact (leaves_exponentTail _).trans ((List.drop_suffix 1 _).trans behind)
    · exact leaves_ok behind _

end Numbers

/-- A scalar is taken from the front. -/
theorem leaves_scalar (cs : List Char) : Leaves cs (scalar cs) := by
  cases cs with
  | nil => exact leaves_stop _ _ _ _
  | cons c rest =>
    have behind : rest <:+ c :: rest := List.suffix_cons _ _
    unfold scalar
    dsimp only
    repeat' split
    · exact ((leaves_word _ rest).map _).trans behind
    · exact ((leaves_word _ rest).map _).trans behind
    · exact ((leaves_word _ rest).map _).trans behind
    · exact ((leaves_text rest).map _).trans behind
    · exact (leaves_number rest).trans behind
    · exact leaves_number _
    · exact leaves_stop _ _ _ _

/-! ### Containers -/

theorem leaves_nextElement (first : Bool) (cs : List Char) : Leaves cs (nextElement first cs) := by
  have dark := skipSpace_suffix cs
  unfold nextElement
  split
  · exact leaves_stop _ _ _ _
  · next same => exact leaves_ok (same ▸ dark) _
  · next c rest _ same =>
    have behind : rest <:+ cs := (List.suffix_cons _ _).trans (same ▸ dark)
    split
    · exact leaves_ok (same ▸ dark) _
    · split
      · split
        · exact leaves_stop _ _ _ _
        · exact leaves_stop _ _ _ _
        · exact leaves_ok ((skipSpace_suffix rest).trans behind) _
      · exact leaves_stop _ _ _ _

theorem leaves_nextKey (first : Bool) (cs : List Char) : Leaves cs (nextKey first cs) := by
  have dark := skipSpace_suffix cs
  unfold nextKey
  split
  · exact leaves_stop _ _ _ _
  · next same => exact leaves_ok (same ▸ dark) _
  · next c rest _ same =>
    have behind : rest <:+ cs := (List.suffix_cons _ _).trans (same ▸ dark)
    split
    · split
      · exact leaves_ok (same ▸ dark) _
      · exact leaves_stop _ _ _ _
    · split
      · split
        · exact leaves_stop _ _ _ _
        · next key => exact leaves_ok ((key ▸ skipSpace_suffix rest).trans behind) _
        · exact leaves_stop _ _ _ _
        · exact leaves_stop _ _ _ _
      · exact leaves_stop _ _ _ _

/-- A key begins with its quote. -/
theorem length_of_nextKey {first : Bool} (found : nextKey first cs = .ok (true, rest)) :
    (rest.drop 1).length < cs.length := by
  have behind := (leaves_nextKey first cs true rest found).length_le
  have filled : rest ≠ [] := by
    rintro rfl
    unfold nextKey at found
    repeat' split at found
    all_goals cases found
  have := List.length_pos_of_ne_nil filled
  rw [List.length_drop]
  omega

theorem leaves_colon (cs : List Char) : Leaves cs (colon cs) := by
  have dark := skipSpace_suffix cs
  unfold colon
  split
  · exact leaves_stop _ _ _ _
  · next same => exact leaves_ok ((List.suffix_cons _ _).trans (same ▸ dark)) _
  · exact leaves_stop _ _ _ _

/-- A container ends at its mark, behind its content. -/
theorem closing_eq_ok_iff {close : List Char → Option Fault × List Char} {content : Reading α}
    {a : α} : closing close content = .ok (a, rest) ↔
      ∃ behind, content = .ok (a, behind) ∧ close behind = (none, rest) := by
  constructor
  · intro read
    unfold closing at read
    split at read
    · next a' behind =>
      split at read
      · next shut =>
        obtain ⟨rfl, rfl⟩ := Prod.mk.inj (Except.ok.inj read)
        exact ⟨behind, rfl, shut⟩
      · cases read
    · cases read
    · cases read
  · rintro ⟨behind, rfl, shut⟩
    rw [closing, shut]

theorem leaves_closeList (shut : closeList cs = (none, rest)) : rest <:+ cs := by
  have dark := skipSpace_suffix cs
  unfold closeList at shut
  dsimp only at shut
  split at shut
  · cases shut
  · next same =>
    obtain ⟨-, rfl⟩ := Prod.mk.inj shut
    exact (List.suffix_cons _ _).trans (same ▸ dark)
  · split at shut <;> cases shut
  · cases shut

theorem leaves_closeObject (shut : closeObject cs = (none, rest)) : rest <:+ cs := by
  have dark := skipSpace_suffix cs
  unfold closeObject at shut
  dsimp only at shut
  split at shut
  · cases shut
  · next same =>
    obtain ⟨-, rfl⟩ := Prod.mk.inj shut
    exact (List.suffix_cons _ _).trans (same ▸ dark)
  · cases shut
  · cases shut

/-- What stands in brackets is taken from the front, with the bracket that shuts them. -/
theorem Leaves.closing {close : List Char → Option Fault × List Char} {content : Reading α}
    (h : Leaves cs content)
    (shuts : ∀ {behind rest}, close behind = (none, rest) → rest <:+ behind) :
    Leaves cs (closing close content) := by
  intro a rest read
  obtain ⟨behind, here, shut⟩ := closing_eq_ok_iff.1 read
  exact (shuts shut).trans (h a behind here)

/-- Items are taken from the front if each of them is. -/
theorem leaves_items {next : Bool → List Char → Reading Bool} {one : List Char → Reading α}
    (goes : ∀ first cs, Leaves cs (next first cs)) (each : ∀ cs, Leaves cs (one cs))
    (clock : List Char) (first : Bool) (cs : List Char) :
    Leaves cs (items next one clock first cs) := by
  induction clock generalizing first cs with
  | nil => exact (goes first cs).bind fun _ _ => leaves_ok List.suffix_rfl _
  | cons tick ticks ih =>
    refine (goes first cs).bind fun more rest => ?_
    dsimp only
    split
    · refine (each rest).bind fun a rest => ?_
      exact (ih false rest).bind fun _ _ => leaves_ok List.suffix_rfl _
    · exact leaves_ok List.suffix_rfl _

/-- A member is taken from the front if its value is. -/
theorem leaves_member {one : List Char → Reading α} (each : ∀ cs, Leaves cs (one cs))
    (cs : List Char) : Leaves cs (member one cs) := by
  refine ((leaves_text _).trans (List.drop_suffix 1 cs)).bind fun key rest => ?_
  refine (leaves_colon rest).bind fun _ rest => ?_
  exact (each rest).bind fun _ _ => leaves_ok List.suffix_rfl _

end DataShelf.Json
