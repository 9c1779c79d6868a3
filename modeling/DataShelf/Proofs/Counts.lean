import DataShelf.Proofs.CivilDates
import DataShelf.Query.Value

/-!
# Counts in machine integers

A count of a unit of time is so many microseconds (`inMicros`). What is computed is that number as
long as it fits 64 bits, and a number 2^64 away from it or some times that otherwise (`toInt_micros`).
The number of a day is a sum of 32 bits, but where that starts over the year lies far beyond those
that dates are shown for, so dates are shown as if the sum were exact (`ofCell_date`).
-/

namespace DataShelf.Engine
set_option autoImplicit false

/-- How many microseconds a count of a unit is, whole ones where the unit is shorter. -/
def TimeUnit.inMicros : TimeUnit → Int → Int
  | .second, count => count * 1000000
  | .millisecond, count => count * 1000
  | .microsecond, count => count
  | .nanosecond, count => count.tdiv 1000

end DataShelf.Engine

namespace DataShelf.Calendar.Date
set_option autoImplicit false

theorem inRange_iff {d : Date} : d.inRange = true ↔ -262143 ≤ d.year ∧ d.year ≤ 262142 := by
  unfold inRange
  rw [Bool.and_eq_true, decide_eq_true_iff, decide_eq_true_iff]
  rfl

/-- The dates that are shown lie within some hundreds of thousands of years. -/
theorem days_of_inRange {days : Int} (shown : (ofDays days).inRange = true) :
    -2 ^ 28 < days ∧ days < 2 ^ 28 := by
  have count := toDays_ofDays days
  have inside : (ofDays days).marchDay ≤ 365 := by
    have day := hasDay_of_valid (valid_ofDays days)
    unfold HasDay at day
    omega
  have year : -262144 ≤ (ofDays days).marchYear ∧ (ofDays days).marchYear ≤ 262142 := by
    obtain ⟨first, last⟩ := inRange_iff.1 shown
    unfold marchYear
    split_ifs <;> omega
  rw [toDays_eq, marchDays, epochShift] at count
  omega

theorem ofNumber_add (days : Int32) :
    ofNumber (epochNumber + days) = ofDays ((719163 + days.toInt).bmod (2 ^ 32) - 719163) := by
  rw [ofNumber, Int32.toInt_add]
  rfl

/-- Where the number of a day starts over, neither date is one that is shown. -/
theorem not_inRange_of_wrapped {days : Int32} (beyond : 2 ^ 31 ≤ 719163 + days.toInt) :
    (ofDays days.toInt).inRange = false ∧ (ofNumber (epochNumber + days)).inRange = false := by
  have below := days.toInt_lt
  have wrapped : (719163 + days.toInt).bmod (2 ^ 32) = 719163 + days.toInt - 2 ^ 32 := by
    rw [Int.bmod_def]
    omega
  rw [ofNumber_add, wrapped, ← Bool.not_eq_true, ← Bool.not_eq_true]
  constructor
  · intro shown
    have near := days_of_inRange shown
    omega
  · intro shown
    have near := days_of_inRange shown
    omega

/-- The day of a date cell is the one that it counts to, unless its number is beyond 32 bits. -/
theorem ofNumber_of_fits {days : Int32} (fits : 719163 + days.toInt < 2 ^ 31) :
    ofNumber (epochNumber + days) = ofDays days.toInt := by
  have lower := days.le_toInt
  have exact : (719163 + days.toInt).bmod (2 ^ 32) = 719163 + days.toInt := by
    rw [Int.bmod_def]
    omega
  rw [ofNumber_add, exact]
  congr 1
  omega

end DataShelf.Calendar.Date

namespace DataShelf.Query.Value

open Calendar (Date)
open Engine (Cell TimeUnit)

/-- The microseconds of a count, up to a multiple of 2^64. -/
theorem toInt_micros (unit : TimeUnit) (count : Int64) :
    (micros unit count).toInt = (unit.inMicros count.toInt).bmod (2 ^ 64) := by
  cases unit with
  | second => exact Int64.toInt_mul count 1000000
  | millisecond => exact Int64.toInt_mul count 1000
  | microsecond =>
    have lower := count.le_toInt
    have below := count.toInt_lt
    show count.toInt = count.toInt.bmod (2 ^ 64)
    rw [Int.bmod_def]
    omega
  | nanosecond => exact Int64.toInt_div count 1000

/-- Microseconds that fit 64 bits are exact. -/
theorem toInt_micros_of_fits {unit : TimeUnit} {count : Int64}
    (fits : -2 ^ 63 ≤ unit.inMicros count.toInt ∧ unit.inMicros count.toInt < 2 ^ 63) :
    (micros unit count).toInt = unit.inMicros count.toInt := by
  obtain ⟨lower, below⟩ := fits
  rw [toInt_micros, Int.bmod_def]
  omega

/-- A date is shown as if its number did not start over. -/
theorem ofCell_date (days : Int32) : ofCell (.date days) = .ok
    (if (Date.ofDays days.toInt).inRange then .text (Date.ofDays days.toInt).render
      else .integer days.toInt64) := by
  rw [ofCell]
  by_cases fits : 719163 + days.toInt < 2 ^ 31
  · rw [Date.ofNumber_of_fits fits]
  · obtain ⟨exact, wrapped⟩ := Date.not_inRange_of_wrapped (Int.not_lt.1 fits)
    rw [exact, wrapped]
    rfl

end DataShelf.Query.Value
