import DataShelf.Proofs.CalendarTexts
import DataShelf.Proofs.Counts

/-!
# Times of day in cells

A count of microseconds is shown as a time of day by way of its seconds, of which only the low 32 bits
are kept, so besides the times of day themselves there are counts that are shown as one that they are
not (`ShownAs`): those that lie some turns of 2^32 seconds from it. Every other count stays a number.
So the value of a cell is exact unless its count is shown as another, and two cells have one value
exactly if they have one count or are shown as one time of day (`times_of_day_exact_iff`).
-/

namespace DataShelf.Query
set_option autoImplicit false

open Calendar (microsPerDay readTime? renderTime? renderClock low32 microsPerSecond)
open Engine (Cell TimeUnit)

/-- The microseconds after which the seconds of a count start over. -/
def turn : Nat := 2 ^ 32 * 1000000

/-- A count of microseconds is shown as a time of day: it is some turns before or behind it. Of a count
below zero only whole seconds are shown. -/
structure ShownAs (m : Int) (t : Nat) : Prop where
  inside : t < microsPerDay
  turns : (turn : Int) ∣ m - t
  whole : m < 0 → 1000000 ∣ t

/-- What a time of day is shown as. -/
def timeText (t : Nat) : String :=
  renderClock (t / 1000000) ++ "." ++ Text.paddedDecimal 6 (t % 1000000)

/-- The text of a time of day is read as its micros. -/
theorem readTime?_timeText {t : Nat} (inside : t < microsPerDay) :
    readTime? (timeText t) = some t := by
  unfold microsPerDay at inside
  rw [timeText, Calendar.readTime?_render (by omega) (by omega)]
  congr 1
  omega

section Counts

variable {m : Int} {t t' : Nat}

/-- A time of day is shown as itself. -/
theorem shownAs_self (inside : t < microsPerDay) : ShownAs t t :=
  ⟨inside, by simp, by omega⟩

/-- A count is shown as one time of day. -/
theorem ShownAs.unique (shown : ShownAs m t) (shown' : ShownAs m t') : t = t' := by
  obtain ⟨inside, turns, -⟩ := shown
  obtain ⟨inside', turns', -⟩ := shown'
  unfold turn microsPerDay at *
  omega

/-- The time of day is made of the low bits of the seconds and of what is left of a second. -/
theorem shownAs_iff : ShownAs m t ↔ (0 ≤ m ∨ 1000000 ∣ m) ∧ t < microsPerDay ∧
    (t : Int) = m / 1000000 % 2 ^ 32 * 1000000 + m % 1000000 := by
  constructor
  · rintro ⟨inside, turns, whole⟩
    unfold turn microsPerDay at *
    refine ⟨?_, inside, ?_⟩ <;> omega
  · rintro ⟨whole, inside, sum⟩
    refine ⟨inside, ?_, ?_⟩
    · unfold turn
      omega
    · omega

theorem low32_eq (n : Int) : low32 n = (n % 2 ^ 32).toNat := rfl

/-- What is left of a second below zero is beyond every second once its sign is lost. -/
theorem renderTime?_of_broken (negative : m < 0) (broken : ¬1000000 ∣ m) :
    renderTime? m = none := by
  have rest : m.tmod microsPerSecond = m % 1000000 - 1000000 := by
    have sign : ¬(0 ≤ m ∨ 1000000 ∣ m) := by omega
    rw [microsPerSecond, Int.tmod_eq_emod, if_neg sign]
    rfl
  have nanos : ¬low32 (m.tmod microsPerSecond * 1000) < 1000000000 := by
    have positive : 1 ≤ m % 1000000 := by omega
    have below : m % 1000000 < 1000000 := by omega
    have wrapped : (m % 1000000 - 1000000) * 1000 % 2 ^ 32 =
        (m % 1000000 - 1000000) * 1000 + 2 ^ 32 := by
      rw [← Int.add_emod_right]
      exact Int.emod_eq_of_lt (by omega) (by omega)
    rw [rest, low32_eq, wrapped]
    omega
  unfold renderTime?
  exact if_neg fun kept => nanos kept.2

/-- Micros that are not below zero, or are whole seconds, are shown by their second of 32 bits, if that
is one of a day. -/
theorem renderTime?_of_whole (whole : 0 ≤ m ∨ 1000000 ∣ m) : renderTime? m =
    if (m / 1000000 % 2 ^ 32).toNat < 86400 then
      some (timeText (m / 1000000 % 2 ^ 32 * 1000000 + m % 1000000).toNat) else none := by
  have second : low32 (m.tdiv microsPerSecond) = (m / 1000000 % 2 ^ 32).toNat := by
    rw [microsPerSecond, Int.tdiv_eq_ediv, if_pos whole, Int.add_zero]
    rfl
  have nanos : low32 (m.tmod microsPerSecond * 1000) = (m % 1000000).toNat * 1000 := by
    rw [microsPerSecond, Int.tmod_eq_emod, if_pos whole, low32_eq]
    omega
  have few : (m % 1000000).toNat * 1000 < 1000000000 := by omega
  have seconds : (m / 1000000 % 2 ^ 32 * 1000000 + m % 1000000).toNat / 1000000 =
      (m / 1000000 % 2 ^ 32).toNat := by omega
  have micros : (m / 1000000 % 2 ^ 32 * 1000000 + m % 1000000).toNat % 1000000 =
      (m % 1000000).toNat := by omega
  unfold renderTime?
  rw [second, nanos, timeText, seconds, micros]
  simp only [few, and_true, Nat.mul_div_cancel _ (by decide : 0 < 1000)]

theorem renderTime?_of_shownAs (shown : ShownAs m t) : renderTime? m = some (timeText t) := by
  obtain ⟨whole, inside, sum⟩ := shownAs_iff.1 shown
  have early : (m / 1000000 % 2 ^ 32).toNat < 86400 := by
    unfold microsPerDay at inside
    omega
  rw [renderTime?_of_whole whole, if_pos early, ← sum, Int.toNat_natCast]

/-- Micros that are shown as no time of day are not rendered. -/
theorem renderTime?_of_not_shownAs (never : ∀ t, ¬ShownAs m t) : renderTime? m = none := by
  by_cases whole : 0 ≤ m ∨ 1000000 ∣ m
  · have late : ¬(m / 1000000 % 2 ^ 32).toNat < 86400 := by
      intro early
      refine never (m / 1000000 % 2 ^ 32 * 1000000 + m % 1000000).toNat
        (shownAs_iff.2 ⟨whole, ?_, ?_⟩)
      · unfold microsPerDay
        omega
      · omega
    rw [renderTime?_of_whole whole, if_neg late]
  · exact renderTime?_of_broken (by omega) (by omega)

end Counts

/-! ### Values -/

/-- The value of a count of microseconds is exact: the text of the time of day that it is, if it is
one, and the count otherwise. -/
def ExactTime (m : Int64) (value : Value) : Prop :=
  if 0 ≤ m.toInt ∧ m.toInt < microsPerDay then
    ∃ s, value = .text s ∧ readTime? s = some m.toInt.toNat
  else value = .integer m

section Values

variable {unit : TimeUnit} {count : Int64}

theorem ofCell_time (unit : TimeUnit) (count : Int64) : Value.ofCell (.time unit count) =
    match renderTime? (Value.micros unit count).toInt with
    | some shown => .ok (.text shown)
    | none => .ok (.integer (Value.micros unit count)) := rfl

theorem ofCell_of_shownAs {t : Nat} (shown : ShownAs (Value.micros unit count).toInt t) :
    Value.ofCell (.time unit count) = .ok (.text (timeText t)) := by
  rw [ofCell_time, renderTime?_of_shownAs shown]

theorem ofCell_of_not_shownAs (never : ∀ t, ¬ShownAs (Value.micros unit count).toInt t) :
    Value.ofCell (.time unit count) = .ok (.integer (Value.micros unit count)) := by
  rw [ofCell_time, renderTime?_of_not_shownAs never]

/-- A time is the text of a time of day exactly if it is shown as that. -/
theorem ofCell_eq_text_iff {t : Nat} (inside : t < microsPerDay) :
    Value.ofCell (.time unit count) = .ok (.text (timeText t)) ↔
      ShownAs (Value.micros unit count).toInt t := by
  refine ⟨fun value => ?_, ofCell_of_shownAs⟩
  by_cases shown : ∃ t', ShownAs (Value.micros unit count).toInt t'
  · obtain ⟨t', shown⟩ := shown
    rw [ofCell_of_shownAs shown] at value
    have read := readTime?_timeText shown.inside
    rw [Value.text.inj (Except.ok.inj value), readTime?_timeText inside] at read
    obtain rfl := Option.some.inj read
    exact shown
  · rw [ofCell_of_not_shownAs (not_exists.1 shown)] at value
    exact nomatch value

/-- A time is a number exactly if it is shown as no time of day. -/
theorem ofCell_eq_integer_iff {m : Int64} : Value.ofCell (.time unit count) = .ok (.integer m) ↔
    Value.micros unit count = m ∧ ∀ t, ¬ShownAs m.toInt t := by
  constructor
  · intro value
    by_cases shown : ∃ t, ShownAs (Value.micros unit count).toInt t
    · obtain ⟨t, shown⟩ := shown
      rw [ofCell_of_shownAs shown] at value
      exact nomatch value
    · have never := not_exists.1 shown
      rw [ofCell_of_not_shownAs never] at value
      obtain rfl := Value.integer.inj (Except.ok.inj value)
      exact ⟨rfl, never⟩
  · rintro ⟨rfl, never⟩
    exact ofCell_of_not_shownAs never

end Values

/-- The text of a time of day is exact for that alone. -/
theorem exactTime_text_iff {m : Int64} {t : Nat} (inside : t < microsPerDay) :
    ExactTime m (.text (timeText t)) ↔ m.toInt = t := by
  have read := readTime?_timeText inside
  unfold ExactTime
  split
  case isTrue day =>
    constructor
    · rintro ⟨s, same, read'⟩
      obtain rfl := Value.text.inj same
      have same := Option.some.inj (read.symm.trans read')
      omega
    · intro same
      rw [same]
      exact ⟨_, rfl, read⟩
  case isFalse other =>
    constructor
    · exact nofun
    · intro same
      exact absurd ⟨by omega, by omega⟩ other

/-- A count that is shown as no time of day is none. -/
theorem exactTime_integer {m : Int64} (never : ∀ t, ¬ShownAs m.toInt t) :
    ExactTime m (.integer m) := by
  have other : ¬(0 ≤ m.toInt ∧ m.toInt < microsPerDay) := by
    rintro ⟨lower, below⟩
    refine never m.toInt.toNat ?_
    rw [show m.toInt = (m.toInt.toNat : Int) by omega]
    exact shownAs_self (by omega)
  exact (if_neg other).mpr rfl

/-- **Times of day are shown exactly unless the count is shown as another.** A cell with a time of day
has a count of microseconds, which is that of its unit if it fits 64 bits, and it has a value. It is a
text that is read back as a time of day exactly if the count is shown as that, and the count exactly if
that is shown as none. So the value is exact, the time of day or the count, unless the count lies some
turns of 2^32 seconds from a time of day and is shown as that; and two cells have one value exactly if
they have one count or both counts are shown as one time of day. -/
theorem times_of_day_exact_iff (unit : TimeUnit) (count : Int64) :
    let m := Value.micros unit count
    (-2 ^ 63 ≤ unit.inMicros count.toInt ∧ unit.inMicros count.toInt < 2 ^ 63 →
      m.toInt = unit.inMicros count.toInt) ∧
    ∃ value, Value.ofCell (.time unit count) = .ok value ∧
      (∀ t, (∃ s, value = .text s ∧ readTime? s = some t) ↔ ShownAs m.toInt t) ∧
      (value = .integer m ↔ ∀ t, ¬ShownAs m.toInt t) ∧
      (ExactTime m value ↔ ∀ t, ShownAs m.toInt t → m.toInt = t) ∧
      ∀ unit' count', Value.ofCell (.time unit' count') = .ok value ↔
        Value.micros unit' count' = m ∨
          ∃ t, ShownAs m.toInt t ∧ ShownAs (Value.micros unit' count').toInt t := by
  intro m
  refine ⟨Value.toInt_micros_of_fits, ?_⟩
  by_cases shown : ∃ t, ShownAs m.toInt t
  · obtain ⟨t, shown⟩ := shown
    have read := readTime?_timeText shown.inside
    have shown_iff (t' : Nat) : ShownAs m.toInt t' ↔ t = t' :=
      ⟨shown.unique, fun same => same ▸ shown⟩
    refine ⟨_, ofCell_of_shownAs shown, ?_, ⟨nofun, fun never => absurd shown (never t)⟩, ?_, ?_⟩
    · intro t'
      rw [shown_iff]
      constructor
      · rintro ⟨s, same, read'⟩
        obtain rfl := Value.text.inj same
        exact Option.some.inj (read.symm.trans read')
      · rintro rfl
        exact ⟨_, rfl, read⟩
    · simp only [shown_iff, forall_eq', exactTime_text_iff shown.inside]
    · intro unit' count'
      rw [ofCell_eq_text_iff shown.inside]
      constructor
      · intro shown'
        exact .inr ⟨t, shown, shown'⟩
      · rintro (same | ⟨t', shown', shown''⟩)
        · exact same ▸ shown
        · obtain rfl := shown.unique shown'
          exact shown''
  · have never := not_exists.1 shown
    refine ⟨_, ofCell_of_not_shownAs never, ?_, iff_of_true rfl never,
      iff_of_true (exactTime_integer never) fun t shown => absurd shown (never t), ?_⟩
    · intro t
      apply iff_of_false _ (never t)
      rintro ⟨s, same, -⟩
      exact nomatch same
    · intro unit' count'
      rw [ofCell_eq_integer_iff]
      constructor
      · rintro ⟨same, -⟩
        exact .inl same
      · rintro (same | ⟨t', shown', -⟩)
        · exact ⟨same, never⟩
        · exact absurd shown' (never t')

/-- Midnight and the count 2^32 seconds later are both shown as midnight, and the count 2^32 - 5
seconds before it as five seconds past. -/
theorem times_of_day_of_other_counts :
    Value.ofCell (.time .microsecond 4294967296000000) = .ok (.text "00:00:00.000000") ∧
    ¬ExactTime 4294967296000000 (.text "00:00:00.000000") ∧
    Value.ofCell (.time .microsecond 0) = .ok (.text "00:00:00.000000") ∧
    Value.ofCell (.time .microsecond (-4294967291000000)) = .ok (.text "00:00:05.000000") := by
  refine ⟨by decide, ?_, by decide, by decide⟩
  rintro same
  exact nomatch (if_neg (by decide)).mp same

end DataShelf.Query
