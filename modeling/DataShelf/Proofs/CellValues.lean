import DataShelf.Proofs.DatesAndInstants
import DataShelf.Proofs.TimesOfDay

/-!
# The value of each kind of cell

Which value a cell holds is told kind by kind (`Holds`), without the function that reads it: dates and
instants by the calendar, times of day by what counts are shown as. A cell is read as the value that it
holds (`ofCell_eq_ok_iff`), and only one that the engine fails to read is refused, with the message of
the engine (`ofCell_eq_error_iff`).
-/

namespace DataShelf.Query
set_option autoImplicit false

open Calendar (CountsTo Date)
open Engine (Cell IntegerType TimeUnit)

/-- A count of a unit is so many microseconds in 64 bits: they are the microseconds of the count, or
some turns of 2^64 away if those do not fit. -/
def CountsMicros (unit : TimeUnit) (count micros : Int64) : Prop :=
  (2 ^ 64 : Int) ∣ micros.toInt - unit.inMicros count.toInt

/-- A date has a year that dates are shown for. -/
def IsShown (d : Date) : Prop := -262143 ≤ d.year ∧ d.year ≤ 262142

/-- A cell holds a value. There is no case for a cell that the engine fails to read. -/
inductive Holds : Cell → Value → Prop
  | null : Holds .null .null
  | boolean (b : Bool) : Holds (.boolean b) (.boolean b)
  /-- An integer that fits 64 bits with sign is a number. -/
  | number {type : IntegerType} {n : Int} (other : type ≠ .u128) (m : Int64) (same : m.toInt = n) :
      Holds (.integer type n) (.integer m)
  /-- Any other integer is its numeral. -/
  | numeral {type : IntegerType} {n : Int} (other : type ≠ .u128) (far : n < -2 ^ 63 ∨ 2 ^ 63 ≤ n) :
      Holds (.integer type n) (.numeric (toString n))
  /-- The widest integers without sign have no better form than a text. -/
  | unsigned (n : Int) : Holds (.integer .u128 n) (.text ("UHugeInt(" ++ toString n ++ ")"))
  | real (x : Number.Double) : Holds (.real x) (.real x)
  | decimal (numeral : String) : Holds (.decimal numeral) (.numeric numeral)
  | text (octets : List UInt8) : Holds (.text octets) (.text (Text.display octets))
  | blob (octets : List UInt8) : Holds (.blob octets) (.blob octets)
  | geometry (octets : List UInt8) : Holds (.geometry octets) (.text
      ("Geometry(" ++ ("[" ++ ", ".intercalate (octets.map fun b => toString b.toNat) ++ "]") ++ ")"))
  /-- A count of days is the text of its date. -/
  | date {days : Int32} {d : Date} (valid : d.Valid) (lies : d.LiesAfter days.toInt)
      (shown : IsShown d) : Holds (.date days) (.text d.render)
  /-- A count of days stays one if its date is not shown. -/
  | days {days : Int32} {d : Date} (valid : d.Valid) (lies : d.LiesAfter days.toInt)
      (unshown : ¬IsShown d) (m : Int64) (same : m.toInt = days.toInt) :
      Holds (.date days) (.integer m)
  /-- A count of microseconds is an instant. -/
  | instant {unit : TimeUnit} {count m : Int64} {d : Date} {t : Nat}
      (micros : CountsMicros unit count m) (counts : CountsTo m.toInt d t) (shown : IsShown d) :
      Holds (.timestamp unit count) (.timestamp ⟨m.toInt⟩)
  /-- A count of microseconds stays one if its date is not shown. -/
  | moment {unit : TimeUnit} {count m : Int64} {d : Date} {t : Nat}
      (micros : CountsMicros unit count m) (counts : CountsTo m.toInt d t) (unshown : ¬IsShown d) :
      Holds (.timestamp unit count) (.integer m)
  /-- A count is the text of the time of day that it is shown as. -/
  | time {unit : TimeUnit} {count m : Int64} {t : Nat}
      (micros : CountsMicros unit count m) (shown : ShownAs m.toInt t) :
      Holds (.time unit count) (.text (timeText t))
  /-- A count stays one if it is shown as no time of day. -/
  | duration {unit : TimeUnit} {count m : Int64}
      (micros : CountsMicros unit count m) (never : ∀ t, ¬ShownAs m.toInt t) :
      Holds (.time unit count) (.integer m)
  | interval (months days : Int32) (nanos : Int64) : Holds (.interval months days nanos)
      (.text ("P" ++ toString months ++ "M" ++ toString days ++ "DT" ++ toString nanos ++ "N"))
  | other (shown : String) : Holds (.other shown) (.text shown)

/-- There are no other microseconds of a count than those that are computed. -/
theorem countsMicros_iff {unit : TimeUnit} {count m : Int64} :
    CountsMicros unit count m ↔ m = Value.micros unit count := by
  have computed := Value.toInt_micros unit count
  have lower := m.le_toInt
  have below := m.toInt_lt
  rw [CountsMicros, ← Int64.toInt_inj, computed, Int.bmod_def]
  constructor
  · intro turns
    omega
  · intro same
    omega

namespace Value

theorem fits64_iff {n : Int} : fits64 n = true ↔ -2 ^ 63 ≤ n ∧ n < 2 ^ 63 := by
  simp [fits64]

theorem ofInteger_toInt (m : Int64) : ofInteger m.toInt = .integer m := by
  rw [ofInteger, if_pos (fits64_iff.2 ⟨m.le_toInt, m.toInt_lt⟩), Int64.ofInt_toInt]

theorem ofInteger_of_far {n : Int} (far : n < -2 ^ 63 ∨ 2 ^ 63 ≤ n) :
    ofInteger n = .numeric (toString n) := by
  rw [ofInteger, if_neg]
  intro fits
  have near := fits64_iff.1 fits
  omega

theorem ofCell_integer {type : IntegerType} (other : type ≠ .u128) (n : Int) :
    ofCell (.integer type n) = .ok (ofInteger n) := by
  cases type with
  | u128 => exact absurd rfl other
  | _ => rfl

end Value

/-! ### Reading a cell -/

/-- Each integer cell is read as a value that it holds. -/
theorem holds_integer (type : IntegerType) (n : Int) :
    ∃ value, Value.ofCell (.integer type n) = .ok value ∧ Holds (.integer type n) value := by
  by_cases unsigned : type = .u128
  · subst unsigned
    exact ⟨_, rfl, .unsigned n⟩
  rw [Value.ofCell_integer unsigned]
  refine ⟨_, rfl, ?_⟩
  by_cases far : n < -2 ^ 63 ∨ 2 ^ 63 ≤ n
  · rw [Value.ofInteger_of_far far]
    exact .numeral unsigned far
  · have near : (Int64.ofInt n).toInt = n := Int64.toInt_ofInt_of_le (by omega) (by omega)
    rw [← near, Value.ofInteger_toInt]
    exact .number unsigned _ rfl

/-- Each date is read as a value that it holds. -/
theorem holds_date (days : Int32) :
    ∃ value, Value.ofCell (.date days) = .ok value ∧ Holds (.date days) value := by
  obtain ⟨valid, lies⟩ := Date.liesAfter_iff_eq_ofDays.2 (Eq.refl (Date.ofDays days.toInt))
  rw [Value.ofCell_date]
  refine ⟨_, rfl, ?_⟩
  split_ifs with shown
  · exact .date valid lies (Date.inRange_iff.1 shown)
  · exact .days valid lies (mt Date.inRange_iff.2 shown) _ days.toInt_toInt64

/-- Each timestamp is read as a value that it holds. -/
theorem holds_timestamp (unit : TimeUnit) (count : Int64) :
    ∃ value, Value.ofCell (.timestamp unit count) = .ok value ∧
      Holds (.timestamp unit count) value := by
  have micros := countsMicros_iff.2 (Eq.refl (Value.micros unit count))
  have counts := (Calendar.countsTo_iff (Value.micros unit count).toInt).2 ⟨rfl, rfl⟩
  rw [ofCell_timestamp, Calendar.Instant.ofMicros?]
  split_ifs with shown
  · exact ⟨_, rfl, .instant micros counts (Date.inRange_iff.1 shown)⟩
  · exact ⟨_, rfl, .moment micros counts (mt Date.inRange_iff.2 shown)⟩

/-- Each time of day is read as a value that it holds. -/
theorem holds_time (unit : TimeUnit) (count : Int64) :
    ∃ value, Value.ofCell (.time unit count) = .ok value ∧ Holds (.time unit count) value := by
  have micros := countsMicros_iff.2 (Eq.refl (Value.micros unit count))
  by_cases shown : ∃ t, ShownAs (Value.micros unit count).toInt t
  · obtain ⟨t, shown⟩ := shown
    exact ⟨_, ofCell_of_shownAs shown, .time micros shown⟩
  · have never := not_exists.1 shown
    exact ⟨_, ofCell_of_not_shownAs never, .duration micros never⟩

/-- A cell that the engine reads holds what it is read as. -/
theorem exists_holds {cell : Cell} (read : ∀ message, cell ≠ .unreadable message) :
    ∃ value, Value.ofCell cell = .ok value ∧ Holds cell value := by
  cases cell with
  | null => exact ⟨_, rfl, .null⟩
  | boolean b => exact ⟨_, rfl, .boolean b⟩
  | integer type n => exact holds_integer type n
  | real x => exact ⟨_, rfl, .real x⟩
  | decimal numeral => exact ⟨_, rfl, .decimal numeral⟩
  | text octets => exact ⟨_, rfl, .text octets⟩
  | blob octets => exact ⟨_, rfl, .blob octets⟩
  | geometry octets => exact ⟨_, rfl, .geometry octets⟩
  | date days => exact holds_date days
  | timestamp unit count => exact holds_timestamp unit count
  | time unit count => exact holds_time unit count
  | interval months days nanos => exact ⟨_, rfl, .interval months days nanos⟩
  | other shown => exact ⟨_, rfl, .other shown⟩
  | unreadable message => exact absurd rfl (read message)

/-- A cell is read as a value that it holds. -/
theorem Holds.read {cell : Cell} {value : Value} (held : Holds cell value) :
    Value.ofCell cell = .ok value := by
  cases held with
  | number other m same => rw [Value.ofCell_integer other, ← same, Value.ofInteger_toInt]
  | numeral other far => rw [Value.ofCell_integer other, Value.ofInteger_of_far far]
  | date valid lies shown =>
    obtain rfl := Date.liesAfter_iff_eq_ofDays.1 ⟨valid, lies⟩
    rw [Value.ofCell_date, if_pos (Date.inRange_iff.2 shown)]
  | days valid lies unshown m same =>
    obtain rfl := Date.liesAfter_iff_eq_ofDays.1 ⟨valid, lies⟩
    rw [Value.ofCell_date, if_neg (mt Date.inRange_iff.1 unshown), ← Int64.toInt_inj.1
      (same.trans (Int32.toInt_toInt64 _).symm)]
  | instant micros counts shown =>
    obtain rfl := countsMicros_iff.1 micros
    obtain ⟨rfl, -⟩ := (Calendar.countsTo_iff _).1 counts
    rw [ofCell_timestamp, Calendar.Instant.ofMicros?, if_pos (Date.inRange_iff.2 shown)]
  | moment micros counts unshown =>
    obtain rfl := countsMicros_iff.1 micros
    obtain ⟨rfl, -⟩ := (Calendar.countsTo_iff _).1 counts
    rw [ofCell_timestamp, Calendar.Instant.ofMicros?, if_neg (mt Date.inRange_iff.1 unshown)]
  | time micros shown =>
    obtain rfl := countsMicros_iff.1 micros
    exact ofCell_of_shownAs shown
  | duration micros never =>
    obtain rfl := countsMicros_iff.1 micros
    exact ofCell_of_not_shownAs never
  | _ => rfl

/-- A cell is read as the value that it holds and as nothing else. -/
theorem ofCell_eq_ok_iff {cell : Cell} {value : Value} :
    Value.ofCell cell = .ok value ↔ Holds cell value := by
  refine ⟨fun mapped => ?_, Holds.read⟩
  have read (message : String) : cell ≠ .unreadable message := by
    rintro rfl
    cases mapped
  obtain ⟨value', mapped', held⟩ := exists_holds read
  obtain rfl := Except.ok.inj (mapped.symm.trans mapped')
  exact held

/-- Only a cell that the engine fails to read is refused. -/
theorem ofCell_eq_error_iff {cell : Cell} {message : String} :
    Value.ofCell cell = .error message ↔ cell = .unreadable message := by
  constructor
  · intro refused
    by_cases read : ∀ m, cell ≠ .unreadable m
    · obtain ⟨value, mapped, -⟩ := exists_holds read
      rw [mapped] at refused
      cases refused
    · obtain ⟨m, rfl⟩ := not_forall_not.1 read
      rw [Except.error.inj refused]
  · rintro rfl
    rfl

end DataShelf.Query
