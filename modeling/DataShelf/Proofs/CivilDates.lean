import DataShelf.Calendar.Date
import Mathlib.Logic.Function.Iterate
import Mathlib.Tactic.IntervalCases

/-!
# Days of the calendar

A year has a leap day if four divides it, but not if a hundred does unless four hundred does too. A
date is `Valid` if there is such a month and it has such a day, and `next` is the day behind it. How
many steps of `next` lead from 1970-01-01 to a date, or from the date there, says where the date lies
(`LiesAfter`). For every number of days there is one such date, and `Date.ofDays` finds it
(`liesAfter_iff_eq_ofDays`).

In between stand years that begin in March, so that a leap day is the last of its year. The count of
a date is linear in such a year, the leap days before it and the day in it (`toDays_eq`), so one day
more is one more (`toDays_next`). A date is found from its count by taking a cycle of 400 years apart
into centuries, fours of years, years and days (`DayOfCycle`, `ofDays_marchDays`).
-/

namespace DataShelf.Calendar
set_option autoImplicit false

/-- Whether a year has a leap day. -/
def IsLeap (year : Int) : Prop := 4 ∣ year ∧ (100 ∣ year → 400 ∣ year)

instance (year : Int) : Decidable (IsLeap year) :=
  inferInstanceAs (Decidable (4 ∣ year ∧ (100 ∣ year → 400 ∣ year)))

/-- How many days a month has. -/
def daysInMonth (year : Int) (month : Nat) : Nat :=
  if month = 2 then if IsLeap year then 29 else 28
  else if month = 4 ∨ month = 6 ∨ month = 9 ∨ month = 11 then 30
  else 31

theorem one_le_daysInMonth (year : Int) (month : Nat) : 1 ≤ daysInMonth year month := by
  unfold daysInMonth
  split_ifs <;> decide

theorem daysInMonth_le_31 (year : Int) (month : Nat) : daysInMonth year month ≤ 31 := by
  unfold daysInMonth
  split_ifs <;> decide

namespace Date

/-- A date of the calendar: the year has the month, and the month has the day. -/
structure Valid (d : Date) : Prop where
  month : 1 ≤ d.month ∧ d.month ≤ 12
  day : 1 ≤ d.day ∧ d.day ≤ daysInMonth d.year d.month

/-- The month and the day of a date have two digits at most. -/
theorem Valid.two_digits {d : Date} (valid : d.Valid) : d.month < 100 ∧ d.day < 100 := by
  have month := valid.month
  have day := valid.day
  have days := daysInMonth_le_31 d.year d.month
  exact ⟨by omega, by omega⟩

/-- The day behind a date. -/
def next (d : Date) : Date :=
  if d.day < daysInMonth d.year d.month then { d with day := d.day + 1 }
  else if d.month < 12 then ⟨d.year, d.month + 1, 1⟩
  else ⟨d.year + 1, 1, 1⟩

/-- The date from which days are counted. -/
def epoch : Date := ⟨1970, 1, 1⟩

/-- A date lies some days after 1970-01-01: so many steps lead there, or back if there are less than
none. -/
def LiesAfter (days : Int) (d : Date) : Prop := next^[days.toNat] epoch = next^[(-days).toNat] d

/-! ### Years that begin in March -/

/-- The year of a date if years begin in March. -/
def marchYear (d : Date) : Int := if d.month ≤ 2 then d.year - 1 else d.year

/-- How many months after March a date lies. -/
def marchMonth (d : Date) : Nat := if d.month ≤ 2 then d.month + 9 else d.month - 3

/-- How many days after the first of March a date lies. -/
def marchDay (d : Date) : Nat := daysBeforeMonth d.marchMonth + (d.day - 1)

/-- The date of a day of a year that begins in March. -/
def ofMarch (year : Int) (day : Nat) : Date :=
  let month := (5 * day + 2) / 153
  let dayOfMonth := day - daysBeforeMonth month + 1
  if month < 10 then ⟨year, month + 3, dayOfMonth⟩ else ⟨year + 1, month - 9, dayOfMonth⟩

/-- A year that begins in March has a day. The last one is there if the year that begins in it has a
leap day. -/
def HasDay (year : Int) (day : Nat) : Prop := day < 365 ∨ day = 365 ∧ IsLeap (year + 1)

section March

variable {d : Date} {year : Int} {day : Nat}

theorem daysBeforeMonth_le (day : Nat) : daysBeforeMonth ((5 * day + 2) / 153) ≤ day := by
  unfold daysBeforeMonth
  omega

/-- The month of a day is the one before whose end it lies. -/
theorem month_of_day {month : Nat} (begun : daysBeforeMonth month ≤ day)
    (below : day < daysBeforeMonth (month + 1)) : (5 * day + 2) / 153 = month := by
  unfold daysBeforeMonth at begun below
  omega

/-- A month ends where the next one begins; of February something may be missing there. -/
theorem daysInMonth_le (valid : d.Valid) :
    daysBeforeMonth d.marchMonth + daysInMonth d.year d.month ≤ daysBeforeMonth (d.marchMonth + 1) := by
  obtain ⟨year, month, day⟩ := d
  obtain ⟨⟨least, greatest⟩, -⟩ := valid
  dsimp only at least greatest ⊢
  unfold marchMonth daysInMonth daysBeforeMonth
  interval_cases month
  case «2» =>
    by_cases leap : IsLeap year <;> simp [leap]
  all_goals simp

theorem marchYear_ofMarch (inside : day ≤ 365) : (ofMarch year day).marchYear = year := by
  have last : (5 * day + 2) / 153 ≤ 11 := by omega
  unfold ofMarch marchYear
  dsimp only
  split_ifs <;> dsimp only at * <;> omega

/-- A day counted from March is that many days behind the first of March. -/
theorem marchDay_ofMarch (inside : day ≤ 365) : (ofMarch year day).marchDay = day := by
  have last : (5 * day + 2) / 153 ≤ 11 := by omega
  have month : (ofMarch year day).marchMonth = (5 * day + 2) / 153 := by
    unfold ofMarch marchMonth
    dsimp only
    split_ifs <;> dsimp only at * <;> omega
  have dayOfMonth : (ofMarch year day).day = day - daysBeforeMonth ((5 * day + 2) / 153) + 1 := by
    unfold ofMarch
    dsimp only
    split_ifs <;> rfl
  have before := daysBeforeMonth_le day
  rw [marchDay, month, dayOfMonth]
  omega

/-- A date is that of its year and its day there. -/
theorem ofMarch_of_valid (valid : d.Valid) : ofMarch d.marchYear d.marchDay = d := by
  have month : (5 * d.marchDay + 2) / 153 = d.marchMonth := by
    refine month_of_day (Nat.le_add_right _ _) ?_
    have ends := daysInMonth_le valid
    have inside := valid.day
    unfold marchDay
    omega
  obtain ⟨year, m, day⟩ := d
  obtain ⟨⟨least, greatest⟩, first, -⟩ := valid
  unfold ofMarch
  rw [month]
  dsimp only at least greatest first
  simp only [marchDay, marchYear, marchMonth]
  split_ifs <;> simp <;> omega

/-- The day of a date is one of the year from March to February that it lies in. -/
theorem hasDay_of_valid (valid : d.Valid) : HasDay d.marchYear d.marchDay := by
  obtain ⟨year, month, day⟩ := d
  obtain ⟨⟨least, greatest⟩, first, last⟩ := valid
  dsimp only at least greatest first last
  unfold daysInMonth at last
  unfold HasDay marchDay marchYear marchMonth daysBeforeMonth
  interval_cases month
  case «2» =>
    by_cases leap : IsLeap year
    · simp [leap] at last ⊢
      omega
    · simp [leap] at last ⊢
      omega
  all_goals
    simp at last ⊢
    omega

/-- Each day of a year from March to February is a date. -/
theorem valid_ofMarch (inside : HasDay year day) : (ofMarch year day).Valid := by
  unfold HasDay at inside
  unfold ofMarch
  generalize here : (5 * day + 2) / 153 = month
  have within : month ≤ 11 := by omega
  interval_cases month
  case «11» =>
    have few : day - 337 + 1 ≤ if IsLeap (year + 1) then 29 else 28 := by
      split_ifs with leap
      · omega
      · have other : day < 365 := inside.resolve_right fun last => leap last.2
        omega
    exact ⟨⟨Nat.le_add_left 1 1, Nat.le_add_left 2 10⟩, Nat.le_add_left 1 _, few⟩
  all_goals
    refine ⟨⟨by simp, by simp⟩, Nat.le_add_left 1 _, ?_⟩
    simp [daysInMonth, daysBeforeMonth]
    omega

end March

/-! ### Counting days -/

/-- The days from the first of March of the year 0 to a day of a year that begins in March. -/
def marchDays (year : Int) (day : Nat) : Int :=
  365 * year + year / 4 - year / 100 + year / 400 + day

section Step

variable {d : Date}

/-- Every year has 365 days, and the years before have their leap days. -/
theorem toDays_eq (d : Date) : d.toDays = marchDays d.marchYear d.marchDay - epochShift := by
  have unfolded : d.toDays = d.marchYear.fdiv 400 * cycleDays +
      (daysBeforeYear (d.marchYear.fmod 400).toNat + daysBeforeMonth d.marchMonth + (d.day - 1) : Nat)
        - epochShift := rfl
  rw [unfolded, Int.fdiv_eq_ediv_of_nonneg _ (by decide), Int.fmod_eq_emod_of_nonneg _ (by decide),
    cycleDays, daysBeforeYear, marchDays, marchDay]
  omega

theorem toDays_of_day (year : Int) (month : Nat) {day : Nat} (counted : 1 ≤ day) :
    (Date.mk year month day).toDays = (Date.mk year month 1).toDays + (day - 1) := by
  rw [toDays_eq, toDays_eq]
  simp only [marchDays, marchDay, marchYear, marchMonth]
  omega

/-- The month behind a month begins as many days later as the month has. -/
theorem toDays_of_month (year : Int) {month : Nat} (counted : 1 ≤ month) (inside : month < 12) :
    (Date.mk year (month + 1) 1).toDays =
      (Date.mk year month 1).toDays + daysInMonth year month := by
  rw [toDays_eq, toDays_eq]
  unfold marchDays marchDay marchYear marchMonth daysInMonth daysBeforeMonth
  interval_cases month
  -- Only the step from February to March leads to another year that begins in March.
  case «2» =>
    by_cases leap : IsLeap year
    · unfold IsLeap at leap
      simp [IsLeap, leap]
      omega
    · unfold IsLeap at leap
      simp [IsLeap, leap]
      omega
  all_goals
    simp
    omega

theorem toDays_of_year (year : Int) :
    (Date.mk (year + 1) 1 1).toDays = (Date.mk year 12 1).toDays + daysInMonth year 12 := by
  rw [toDays_eq, toDays_eq]
  simp [marchDays, marchDay, marchYear, marchMonth, daysInMonth, daysBeforeMonth]
  omega

/-- The day behind a date is a date. -/
theorem Valid.next (valid : d.Valid) : d.next.Valid := by
  obtain ⟨⟨least, greatest⟩, first, last⟩ := valid
  unfold Date.next
  split_ifs with inside within
  · exact ⟨⟨least, greatest⟩, Nat.le_add_left 1 _, inside⟩
  · exact ⟨⟨Nat.le_add_left 1 _, within⟩, Nat.le_refl 1, one_le_daysInMonth _ _⟩
  · exact ⟨⟨Nat.le_refl 1, Nat.le_add_left 1 11⟩, Nat.le_refl 1, one_le_daysInMonth _ _⟩

/-- The day behind a date is counted one more. -/
theorem toDays_next (valid : d.Valid) : d.next.toDays = d.toDays + 1 := by
  obtain ⟨year, month, day⟩ := d
  obtain ⟨⟨least, greatest⟩, first, last⟩ := valid
  dsimp only at least greatest first last
  unfold Date.next
  dsimp only
  rw [toDays_of_day year month first]
  split_ifs with inside within
  · rw [toDays_of_day year month (Nat.le_add_left 1 day)]
    omega
  · rw [toDays_of_month year least within]
    omega
  · obtain rfl : month = 12 := Nat.le_antisymm greatest (Nat.le_of_not_lt within)
    rw [toDays_of_year]
    omega

/-- So many steps on are counted so many more. -/
theorem iterate_next (valid : d.Valid) (n : Nat) :
    (Date.next^[n] d).Valid ∧ (Date.next^[n] d).toDays = d.toDays + n := by
  induction n with
  | zero => exact ⟨valid, (Int.add_zero _).symm⟩
  | succ n ih =>
    obtain ⟨valid', count⟩ := ih
    rw [Function.iterate_succ_apply']
    refine ⟨valid'.next, ?_⟩
    rw [toDays_next valid', count]
    omega

end Step

/-! ### Finding a date -/

/-- A day of a cycle of 400 years by the centuries, the fours of years and the years that have passed
in it. The last day of a year with a leap day is one too many for the others: it is the last of four
years, and only in the last century the last four years of a century have it. -/
structure DayOfCycle where
  century : Nat
  four : Nat
  year : Nat
  day : Nat
  century_lt : century < 4
  four_lt : four < 25
  year_lt : year < 4
  inside : day < 365 ∨ day = 365 ∧ year = 3 ∧ (four < 24 ∨ century = 3)

namespace DayOfCycle

variable (p : DayOfCycle)

/-- The days of the cycle before the day. -/
def count : Nat := 36524 * p.century + 1461 * p.four + 365 * p.year + p.day

/-- The years of the cycle before the day. -/
def years : Nat := 100 * p.century + 4 * p.four + p.year

theorem count_lt : p.count < 146097 := by
  obtain ⟨c, q, r, k, hc, hq, hr, hk⟩ := p
  simp only [count]
  omega

/-- The number of a place in the cycle tells the year. -/
theorem yearOfCycle_count : yearOfCycle p.count = p.years := by
  have inside := p.inside
  have century := p.century_lt
  have four := p.four_lt
  have year := p.year_lt
  have count : p.count = 36524 * p.century + 1461 * p.four + 365 * p.year + p.day := rfl
  unfold yearOfCycle years
  generalize p.count = d at *
  -- The quotients one by one: the whole is too much for linear arithmetic.
  have fours : d / 1460 = 25 * p.century + p.four ∨ d / 1460 = 25 * p.century + p.four + 1 := by
    omega
  have last : d / 146096 = if d = 146096 then 1 else 0 := by
    split_ifs <;> omega
  have centuries : d / 36524 = p.century + d / 146096 := by
    rw [last]
    split_ifs <;> omega
  omega

/-- The number of a place in the cycle tells the day in its year. -/
theorem day_eq : p.count - daysBeforeYear p.years = p.day := by
  have century := p.century_lt
  have four := p.four_lt
  have year := p.year_lt
  unfold daysBeforeYear years count
  omega

/-- Every day of a cycle is one. -/
theorem exists_count {d : Nat} (inside : d < 146097) : ∃ p : DayOfCycle, p.count = d := by
  obtain ⟨c, e, century, rest, rfl⟩ : ∃ c e, c < 4 ∧ (e < 36524 ∨ e = 36524 ∧ c = 3) ∧
      d = 36524 * c + e := ⟨min (d / 36524) 3, d - 36524 * min (d / 36524) 3, by omega⟩
  obtain ⟨q, e', four, rest, rfl⟩ : ∃ q e', q < 25 ∧
      (e' < 1460 ∨ e' = 1460 ∧ (q < 24 ∨ c = 3)) ∧ e = 1461 * q + e' :=
    ⟨e / 1461, e % 1461, by omega⟩
  refine ⟨⟨c, q, min (e' / 365) 3, e' - 365 * min (e' / 365) 3, century, four, by omega, by omega⟩, ?_⟩
  simp only [count]
  omega

/-- The days up to a place in a cycle are those of the cycles before and its number. -/
theorem marchDays_eq (cycle : Int) :
    marchDays (cycle * 400 + p.years) p.day = cycle * 146097 + p.count := by
  have century := p.century_lt
  have four := p.four_lt
  have year := p.year_lt
  simp only [marchDays, years, count]
  omega

/-- A place in a cycle is a day of its year. -/
theorem hasDay (cycle : Int) : HasDay (cycle * 400 + p.years) p.day := by
  have century := p.century_lt
  have four := p.four_lt
  have inside := p.inside
  simp only [HasDay, IsLeap, years]
  omega

/-- Every day of a year that begins in March is a day of a cycle. -/
theorem exists_of_hasDay {year : Int} {day : Nat} (inside : HasDay year day) :
    ∃ (cycle : Int) (p : DayOfCycle), cycle * 400 + p.years = year ∧ p.day = day := by
  unfold HasDay IsLeap at inside
  refine ⟨year / 400, ⟨(year % 400 / 100).toNat, (year % 100 / 4).toNat, (year % 4).toNat, day,
    by omega, by omega, by omega, by omega⟩, ?_, rfl⟩
  simp only [years]
  omega

end DayOfCycle

section Find

variable {d : Date} {year : Int} {day : Nat}

/-- A date is found from its year and its day there, if years begin in March. -/
theorem ofDays_marchDays (inside : HasDay year day) :
    ofDays (marchDays year day - epochShift) = ofMarch year day := by
  obtain ⟨cycle, p, rfl, rfl⟩ := DayOfCycle.exists_of_hasDay inside
  have below := p.count_lt
  have shifted : marchDays (cycle * 400 + p.years) p.day - epochShift + epochShift =
      cycle * 146097 + p.count := by
    rw [p.marchDays_eq, Int.sub_add_cancel]
  have cycles : (cycle * 146097 + p.count : Int).fdiv cycleDays = cycle := by
    rw [Int.fdiv_eq_ediv_of_nonneg _ (by decide), cycleDays]
    omega
  have days : ((cycle * 146097 + p.count : Int).fmod cycleDays).toNat = p.count := by
    rw [Int.fmod_eq_emod_of_nonneg _ (by decide), cycleDays]
    omega
  have unfolded (n : Int) : ofDays n =
      let d := ((n + epochShift).fmod cycleDays).toNat
      ofMarch ((n + epochShift).fdiv cycleDays * 400 + yearOfCycle d)
        (d - daysBeforeYear (yearOfCycle d)) := rfl
  rw [unfolded, shifted, cycles, days]
  dsimp only
  rw [p.yearOfCycle_count, p.day_eq]

/-- Every count of days is that of a day of a year that begins in March. -/
theorem exists_marchDays (days : Int) :
    ∃ year day, HasDay year day ∧ marchDays year day - epochShift = days := by
  obtain ⟨p, count⟩ := DayOfCycle.exists_count (d := ((days + epochShift) % 146097).toNat) (by omega)
  refine ⟨(days + epochShift) / 146097 * 400 + p.years, p.day, p.hasDay _, ?_⟩
  rw [p.marchDays_eq, count]
  omega

theorem ofDays_toDays (valid : d.Valid) : ofDays d.toDays = d := by
  rw [toDays_eq, ofDays_marchDays (hasDay_of_valid valid), ofMarch_of_valid valid]

theorem valid_ofDays (days : Int) : (ofDays days).Valid := by
  obtain ⟨year, day, inside, rfl⟩ := exists_marchDays days
  rw [ofDays_marchDays inside]
  exact valid_ofMarch inside

/-- A number is recovered from its date. -/
theorem toDays_ofDays (days : Int) : (ofDays days).toDays = days := by
  obtain ⟨year, day, inside, rfl⟩ := exists_marchDays days
  have within : day ≤ 365 := by
    unfold HasDay at inside
    omega
  rw [ofDays_marchDays inside, toDays_eq, marchYear_ofMarch within, marchDay_ofMarch within]

theorem valid_epoch : epoch.Valid := ⟨by decide, by decide⟩

/-- A date lies as many days after 1970-01-01 as it counts. -/
theorem liesAfter_iff_toDays {days : Int} (valid : d.Valid) : LiesAfter days d ↔ d.toDays = days := by
  obtain ⟨ahead, counted⟩ := iterate_next valid_epoch days.toNat
  obtain ⟨back, counted'⟩ := iterate_next valid (-days).toNat
  have start : epoch.toDays = 0 := by decide
  unfold LiesAfter
  constructor
  · intro same
    rw [same] at counted
    omega
  · rintro rfl
    rw [← ofDays_toDays ahead, ← ofDays_toDays back]
    congr 1
    omega

/-- **The date some days after 1970-01-01.** There is one such date, before 1970 and after it. -/
theorem liesAfter_iff_eq_ofDays {days : Int} :
    d.Valid ∧ LiesAfter days d ↔ d = ofDays days := by
  constructor
  · rintro ⟨valid, lies⟩
    rw [← (liesAfter_iff_toDays valid).1 lies, ofDays_toDays valid]
  · rintro rfl
    exact ⟨valid_ofDays days, (liesAfter_iff_toDays (valid_ofDays days)).2 (toDays_ofDays days)⟩

example : ofDays (-719529) = ⟨-1, 12, 31⟩ := by decide

end Find

end Date
end DataShelf.Calendar
