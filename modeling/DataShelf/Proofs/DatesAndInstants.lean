import DataShelf.Proofs.CalendarTexts
import DataShelf.Proofs.Counts

/-!
# Dates and instants in cells

A count of days is that of one date, and a count of microseconds that of one date and one time of its
day (`countsTo_iff`). A cell with such a count shows them if the year is one that dates are shown for,
and the count otherwise (`dates_and_instants_exact`). What is shown is read back as the count
(`readDays?_shown`, `readMicros?_shown`), so no two counts are shown alike.
-/

namespace DataShelf.Calendar
set_option autoImplicit false

/-- So many microseconds after the beginning of 1970 it is a date of the calendar, and so many
microseconds of its day have passed. -/
structure CountsTo (micros : Int) (d : Date) (t : Nat) : Prop where
  valid : d.Valid
  inside : t < microsPerDay
  count : ∃ days : Int, d.LiesAfter days ∧ micros = days * microsPerDay + t

section Instants

variable (micros : Int)

/-- How many microseconds of the day of a count have passed. -/
def timeOfDay : Nat := (micros % microsPerDay).toNat

theorem date_eq : Instant.date ⟨micros⟩ = Date.ofDays (micros / microsPerDay) := by
  unfold Instant.date
  rw [Int.fdiv_eq_ediv_of_nonneg _ (by decide)]
  rfl

/-- A count is that of one date and one time of its day. -/
theorem countsTo_iff {d : Date} {t : Nat} :
    CountsTo micros d t ↔ d = Instant.date ⟨micros⟩ ∧ t = timeOfDay micros := by
  rw [date_eq, ← Date.liesAfter_iff_eq_ofDays]
  unfold timeOfDay
  constructor
  · rintro ⟨valid, inside, days, lies, count⟩
    unfold microsPerDay at *
    have day : micros / (86400000000 : Nat) = days := by omega
    refine ⟨⟨valid, day ▸ lies⟩, ?_⟩
    omega
  · rintro ⟨⟨valid, lies⟩, time⟩
    refine ⟨valid, ?_, _, lies, ?_⟩ <;> unfold microsPerDay at * <;> omega

/-- An instant is shown by its day, the second of that day, and the rest of its micros. -/
theorem render_eq : Instant.render ⟨micros⟩ = (Instant.date ⟨micros⟩).render ++ "T" ++
    renderClock (micros / 1000000 % 86400).toNat ++
      Instant.renderFraction (micros % 1000000).toNat ++ "+00:00" := by
  have second : (micros.fdiv microsPerSecond).fmod secondsPerDay = micros / 1000000 % 86400 := by
    rw [Int.fmod_eq_emod_of_nonneg _ (by decide), Int.fdiv_eq_ediv_of_nonneg _ (by decide)]
    rfl
  have rest : micros.fmod microsPerSecond = micros % 1000000 :=
    Int.fmod_eq_emod_of_nonneg _ (by decide)
  unfold Instant.render
  rw [second, rest]

theorem readDate?_of_valid {d : Date} (valid : d.Valid) : readDate? d.render = some d :=
  readDate?_render valid.two_digits.1 valid.two_digits.2

/-- The text of an instant is read as its day and the micros of that day. -/
theorem readInstant?_of_micros : readInstant? (Instant.render ⟨micros⟩) =
    some (Instant.date ⟨micros⟩, timeOfDay micros) := by
  obtain ⟨valid, -, -⟩ := (countsTo_iff micros).2 ⟨rfl, rfl⟩
  obtain ⟨month, day⟩ := valid.two_digits
  rw [render_eq, readInstant?_render month day (by omega) (by omega)]
  congr 2
  unfold timeOfDay microsPerDay
  omega

end Instants
end DataShelf.Calendar

namespace DataShelf.Query

open Calendar (CountsTo Date Instant microsPerDay readDate? readInstant? timeOfDay)
open Engine (Cell TimeUnit)

/-- The JSON form of what is in a cell. -/
def shown (cell : Cell) : Except String Json := (Value.ofCell cell).map Value.toJson

/-- The count of days that is shown. -/
def readDays? : Json → Option Int
  | .integer days => some days
  | .string s => (readDate? s).map Date.toDays
  | _ => none

/-- The count of microseconds that is shown. -/
def readMicros? : Json → Option Int
  | .integer micros => some micros
  | .string s => (readInstant? s).map fun read => read.1.toDays * microsPerDay + read.2
  | _ => none

theorem ofCell_timestamp (unit : TimeUnit) (count : Int64) :
    Value.ofCell (.timestamp unit count) =
    match Instant.ofMicros? (Value.micros unit count).toInt with
    | some instant => .ok (.timestamp instant)
    | none => .ok (.integer (Value.micros unit count)) := rfl

/-- A timestamp is shown as text as long as its day can be shown, and else as its number of
micros. -/
theorem shown_timestamp (unit : TimeUnit) (count : Int64) :
    shown (.timestamp unit count) = .ok
      (if (Instant.date ⟨(Value.micros unit count).toInt⟩).inRange then
        .string (Instant.render ⟨(Value.micros unit count).toInt⟩)
      else .integer (Value.micros unit count).toInt) := by
  rw [shown, ofCell_timestamp, Instant.ofMicros?]
  split_ifs <;> rfl

/-! ### What is shown is read back -/

/-- What is shown for a date is read as the days that it counts. -/
theorem readDays?_shown (days : Int32) :
    ∃ json, shown (.date days) = .ok json ∧ readDays? json = some days.toInt := by
  refine ⟨_, by rw [shown, Value.ofCell_date]; rfl, ?_⟩
  split_ifs
  · have read := Calendar.readDate?_of_valid (Date.valid_ofDays days.toInt)
    rw [Value.toJson, readDays?, read, Option.map_some, Date.toDays_ofDays]
  · rw [Value.toJson, readDays?, Int32.toInt_toInt64]

/-- What is shown for a timestamp is read as the micros that it counts. -/
theorem readMicros?_shown (unit : TimeUnit) (count : Int64) :
    ∃ json, shown (.timestamp unit count) = .ok json ∧
      readMicros? json = some (Value.micros unit count).toInt := by
  refine ⟨_, shown_timestamp unit count, ?_⟩
  generalize (Value.micros unit count).toInt = m
  split_ifs
  · have read := Calendar.readInstant?_of_micros m
    have parts : m / microsPerDay * microsPerDay + timeOfDay m = m := by
      unfold timeOfDay microsPerDay
      omega
    rw [Calendar.date_eq] at read
    rw [readMicros?, read, Option.map_some, Date.toDays_ofDays, parts]
  · rfl

/-- What is read back as two counts is not shown alike unless they are one. -/
theorem eq_of_shown {read : Json → Option Int} {cell cell' : Cell} {n n' : Int}
    (reads : ∃ json, shown cell = .ok json ∧ read json = some n)
    (reads' : ∃ json, shown cell' = .ok json ∧ read json = some n')
    (same : shown cell = shown cell') : n = n' := by
  obtain ⟨json, shows, back⟩ := reads
  obtain ⟨json', shows', back'⟩ := reads'
  obtain rfl := Except.ok.inj (shows.symm.trans (same.trans shows'))
  exact Option.some.inj (back.symm.trans back')

/-- **Dates and instants are shown as what they are.** A count of days is that of one date of the
calendar, and a cell with it has the text of the date if the year is one that dates are shown for, and
the count otherwise. A count of microseconds, which is that of its unit if it fits 64 bits, is that of
one date and one time of its day, and a cell with it is shown as a text that is read back as these if
the year is one that dates are shown for, and as the count otherwise. So no two counts of days are
shown alike, and no two counts of microseconds. -/
theorem dates_and_instants_exact :
    (∀ days : Int32, ∃ date : Date,
      (∀ d : Date, d.Valid ∧ d.LiesAfter days.toInt ↔ d = date) ∧
      readDate? date.render = some date ∧
      Value.ofCell (.date days) = .ok
        (if -262143 ≤ date.year ∧ date.year ≤ 262142 then .text date.render
          else .integer days.toInt64)) ∧
    (∀ (unit : TimeUnit) (count : Int64), ∃ (micros : Int64) (date : Date) (t : Nat) (json : Json),
      micros = Value.micros unit count ∧
      (-2 ^ 63 ≤ unit.inMicros count.toInt ∧ unit.inMicros count.toInt < 2 ^ 63 →
        micros.toInt = unit.inMicros count.toInt) ∧
      (∀ d t', CountsTo micros.toInt d t' ↔ d = date ∧ t' = t) ∧
      shown (.timestamp unit count) = .ok json ∧
      if -262143 ≤ date.year ∧ date.year ≤ 262142 then
        ∃ s, json = .string s ∧ readInstant? s = some (date, t)
      else json = .integer micros.toInt) ∧
    (∀ days days' : Int32, shown (.date days) = shown (.date days') ↔ days = days') ∧
    ∀ (unit unit' : TimeUnit) (count count' : Int64),
      shown (.timestamp unit count) = shown (.timestamp unit' count') ↔
        Value.micros unit count = Value.micros unit' count' := by
  refine ⟨?_, ?_, ?_, ?_⟩
  · intro days
    refine ⟨Date.ofDays days.toInt, fun d => Date.liesAfter_iff_eq_ofDays,
      Calendar.readDate?_of_valid (Date.valid_ofDays days.toInt), ?_⟩
    rw [Value.ofCell_date]
    simp only [Date.inRange_iff]
  · intro unit count
    refine ⟨_, _, _, _, rfl, Value.toInt_micros_of_fits, fun d t => Calendar.countsTo_iff _,
      shown_timestamp unit count, ?_⟩
    simp only [Date.inRange_iff]
    split_ifs
    · exact ⟨_, rfl, Calendar.readInstant?_of_micros _⟩
    · rfl
  · intro days days'
    constructor
    · intro same
      exact Int32.toInt_inj.1 (eq_of_shown (readDays?_shown days) (readDays?_shown days') same)
    · rintro rfl
      rfl
  · intro unit unit' count count'
    constructor
    · intro same
      exact Int64.toInt_inj.1
        (eq_of_shown (readMicros?_shown unit count) (readMicros?_shown unit' count') same)
    · intro same
      rw [shown_timestamp, shown_timestamp, same]

example : shown (.timestamp .microsecond (-1)) = .ok (.string "1969-12-31T23:59:59.999999+00:00") := by
  rfl

end DataShelf.Query
