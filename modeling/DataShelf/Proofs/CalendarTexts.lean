import DataShelf.Calendar.Instant
import Mathlib.Data.Nat.Digits.Defs
import Mathlib.Tactic.SplitIfs

/-!
# Reading dates and times

Dates, times of day and instants are read off a text piece by piece. A `Scan` takes a value off the
front of a text, and it `Takes` a piece if it takes that off whatever stands behind it, so scans one
after the other take pieces one after the other (`Takes.bind`). What is shown of a date, of a time of
day and of an instant is read back (`readDate?_render`, `readTime?_render`, `readInstant?_render`).
-/

namespace DataShelf.Calendar
set_option autoImplicit false

/-- The microseconds of a day. -/
def microsPerDay : Nat := 86400000000

/-- Takes a value off the front of a text. -/
abbrev Scan (α : Type) := StateT (List Char) Option α

namespace Scan

/-- Takes one character. -/
def char (c : Char) : Scan Unit
  | [] => none
  | c' :: rest => if c' = c then some ((), rest) else none

/-- The number that digits are. -/
def number? (digits : List Char) : Option Nat :=
  if digits.all Char.isDigit then some (Nat.ofDigitChars 10 digits 0) else none

/-- Takes a number of so many digits. -/
def digits (width : Nat) : Scan Nat := fun cs =>
  if (cs.take width).length = width then
    (number? (cs.take width)).map fun n => (n, cs.drop width)
  else none

/-- Takes the characters in front of the first one of a kind, and that. -/
def before (stop : Char) : Scan (List Char) := fun cs =>
  match cs.dropWhile (· != stop) with
  | [] => none
  | _ :: rest => some (cs.takeWhile (· != stop), rest)

/-- Takes the digits of a year behind its sign, and the dash behind them. There are at least four, and
the year is not below the least that has the sign. -/
def signedYear (least : Nat) : Scan Nat := do
  let digits ← before '-'
  let n ← number? digits
  guard (4 ≤ digits.length ∧ least ≤ n)
  return n

/-- Takes a year of four digits, and the dash behind it. -/
def plainYear : Scan Nat := do
  let n ← digits 4
  char '-'
  return n

/-- Takes a year and the dash behind it. A year has four digits, or a sign if it is none of those. -/
def year : Scan Int
  | '-' :: cs => ((signedYear 1).run cs).map fun r => (-(r.1 : Int), r.2)
  | '+' :: cs => ((signedYear 10000).run cs).map fun r => ((r.1 : Int), r.2)
  | cs => (plainYear.run cs).map fun r => ((r.1 : Int), r.2)

/-- Takes a date. -/
def date : Scan Date := do
  let year ← year
  let month ← digits 2
  char '-'
  let day ← digits 2
  return ⟨year, month, day⟩

/-- Takes hours, minutes and seconds, as seconds. -/
def clock : Scan Nat := do
  let hour ← digits 2
  char ':'
  let minute ← digits 2
  char ':'
  let second ← digits 2
  guard (hour < 24 ∧ minute < 60 ∧ second < 60)
  return (hour * 60 + minute) * 60 + second

/-- Takes a fraction of a second of up to six digits, as microseconds, and the sign behind it. There
may be none. -/
def fraction : Scan Nat := do
  match ← before '+' with
  | [] => return 0
  | c :: digits =>
    let n ← number? digits
    guard (c = '.' ∧ 1 ≤ digits.length ∧ digits.length ≤ 6)
    return n * 10 ^ (6 - digits.length)

/-- What a scan takes if nothing is left. -/
def whole {α : Type} (scan : Scan α) (s : String) : Option α :=
  match scan.run s.toList with
  | some (a, []) => some a
  | _ => none

end Scan

/-- The date in a text. -/
def readDate? : String → Option Date := Scan.date.whole

/-- The time of day in a text, in microseconds. -/
def readTime? : String → Option Nat := Scan.whole do
  let second ← Scan.clock
  Scan.char '.'
  let micros ← Scan.digits 6
  return second * 1000000 + micros

/-- The instant in a text: a date, and a time of day in microseconds in UTC. -/
def readInstant? : String → Option (Date × Nat) := Scan.whole do
  let date ← Scan.date
  Scan.char 'T'
  let second ← Scan.clock
  let micros ← Scan.fraction
  Scan.char '0'
  Scan.char '0'
  Scan.char ':'
  Scan.char '0'
  Scan.char '0'
  return (date, second * 1000000 + micros)

/-! ### Pieces -/

/-- A scan takes a piece of text off whatever stands behind it. -/
def Takes {α : Type} (scan : Scan α) (piece : String) (a : α) : Prop :=
  ∀ rest, scan.run (piece.toList ++ rest) = some (a, rest)

section Pieces

variable {α β : Type} {scan : Scan α} {piece piece' : String} {a : α} {b : β}

/-- What two scans take one after the other the scans in this order take together. -/
theorem Takes.bind {next : α → Scan β} (first : Takes scan piece a)
    (second : Takes (next a) piece' b) : Takes (scan >>= next) (piece ++ piece') b := by
  intro rest
  rw [String.toList_append, List.append_assoc, StateT.run_bind, first]
  exact second rest

/-- A scan that takes nothing may stand behind another one. -/
theorem Takes.bind_empty {next : α → Scan β} (first : Takes scan piece a)
    (second : Takes (next a) "" b) : Takes (scan >>= next) piece b := by
  simpa using first.bind second

theorem Takes.pure (a : α) : Takes (pure a) "" a := fun _ => rfl

/-- A scan that takes a whole text reads it. -/
theorem Takes.whole (taken : Takes scan piece a) : scan.whole piece = some a := by
  have alone := taken []
  rw [List.append_nil] at alone
  rw [Scan.whole, alone]

/-- A scan for a character takes the text of that character. -/
theorem takes_char {c : Char} (one : piece.toList = [c]) : Takes (Scan.char c) piece () := by
  intro rest
  simp [Scan.char, StateT.run, one]

theorem takes_lift {option : Option α} (known : option = some a) :
    Takes (liftM option : Scan α) "" a := by
  intro rest
  rw [known]
  rfl

theorem takes_guard {p : Prop} [Decidable p] (holds : p) : Takes (guard p) "" () := by
  intro rest
  simp [guard, holds]

end Pieces

/-! ### Numerals -/

section Numerals

variable {width n : Nat}

/-- Zeros in front of a numeral change nothing of its number. -/
theorem number?_append_zeros (count : Nat) (n : Nat) :
    Scan.number? (List.replicate count '0' ++ Nat.toDigits 10 n) = some n := by
  have zeros : Nat.ofDigitChars 10 (List.replicate count '0') 0 = 0 := by
    induction count with
    | zero => rfl
    | succ count ih =>
      rw [List.replicate_succ, Nat.ofDigitChars_cons]
      exact ih
  have all : (List.replicate count '0' ++ Nat.toDigits 10 n).all Char.isDigit := by
    rw [List.all_append, Bool.and_eq_true, List.all_eq_true, List.all_eq_true]
    refine ⟨fun c member => ?_, fun c member => Nat.isDigit_of_mem_toDigits (by decide) (by decide) member⟩
    rw [(List.mem_replicate.1 member).2]
    rfl
  rw [Scan.number?, if_pos all, Nat.ofDigitChars_append, zeros,
    Nat.ofDigitChars_toDigits (by decide) (by decide)]

/-- A padded numeral has the digits of its number, behind zeros up to the width. -/
theorem toList_paddedDecimal (width n : Nat) : (Text.paddedDecimal width n).toList =
    List.replicate (width - (Nat.toDigits 10 n).length) '0' ++ Nat.toDigits 10 n := by
  simp [Text.paddedDecimal, Nat.toList_repr]

theorem number?_paddedDecimal (width n : Nat) :
    Scan.number? (Text.paddedDecimal width n).toList = some n := by
  rw [toList_paddedDecimal, number?_append_zeros]

theorem le_length_paddedDecimal (width n : Nat) :
    width ≤ (Text.paddedDecimal width n).toList.length := by
  rw [toList_paddedDecimal, List.length_append, List.length_replicate]
  omega

/-- A padded numeral has just its width if the number is small enough. -/
theorem length_paddedDecimal (wide : 0 < width) (small : n < 10 ^ width) :
    (Text.paddedDecimal width n).toList.length = width := by
  have short := (Nat.length_toDigits_le_iff (by decide : 1 < 10) wide).2 small
  rw [toList_paddedDecimal, List.length_append, List.length_replicate]
  omega

/-- A padded numeral of that width is taken as its number. -/
theorem takes_digits (wide : 0 < width) (small : n < 10 ^ width) :
    Takes (Scan.digits width) (Text.paddedDecimal width n) n := by
  intro rest
  have length := length_paddedDecimal wide small
  have front : ((Text.paddedDecimal width n).toList ++ rest).take width =
      (Text.paddedDecimal width n).toList := List.take_left' length
  have behind : ((Text.paddedDecimal width n).toList ++ rest).drop width = rest :=
    List.drop_left' length
  simp only [Scan.digits, StateT.run, front, behind, length, if_true, number?_paddedDecimal,
    Option.map_some]

/-- What is read as a number has nothing but digits. -/
theorem isDigit_of_number? {digits : List Char} (number : Scan.number? digits = some n) :
    ∀ c ∈ digits, c.isDigit = true := by
  unfold Scan.number? at number
  split at number
  · next all => exact List.all_eq_true.1 all
  · cases number

/-- A scan up to a stop takes what is in front of the first one. -/
theorem takes_before {stop : Char} {piece : String} {digits : List Char}
    (apart : ∀ c ∈ digits, c ≠ stop) (text : piece.toList = digits ++ [stop]) :
    Takes (Scan.before stop) piece digits := by
  intro rest
  have apart' : ∀ c ∈ digits, (c != stop) = true := fun c member => bne_iff_ne.2 (apart c member)
  rw [text, List.append_assoc, StateT.run, Scan.before, List.dropWhile_append_of_pos apart',
    List.takeWhile_append_of_pos apart']
  simp

end Numerals

/-! ### Dates -/

section Year

variable {n : Nat}

/-- A year behind a sign is taken up to the stroke behind it. -/
theorem takes_signedYear {least : Nat} (signed : least ≤ n) :
    Takes (Scan.signedYear least) (Text.paddedDecimal 4 n ++ "-") n := by
  have number := number?_paddedDecimal 4 n
  have digits : Takes (Scan.before '-') (Text.paddedDecimal 4 n ++ "-")
      (Text.paddedDecimal 4 n).toList := by
    refine takes_before (fun c member => ?_) (String.toList_append ..)
    rintro rfl
    exact absurd (isDigit_of_number? number _ member) (by decide)
  unfold Scan.signedYear
  refine digits.bind_empty ?_
  refine (takes_lift number).bind_empty ?_
  exact (takes_guard ⟨le_length_paddedDecimal 4 n, signed⟩).bind_empty (.pure n)

/-- A year of four digits is taken up to the stroke behind it. -/
theorem takes_plainYear (small : n < 10000) :
    Takes Scan.plainYear (Text.paddedDecimal 4 n ++ "-") n := by
  unfold Scan.plainYear
  refine (takes_digits (by decide) small).bind ?_
  exact (takes_char rfl).bind_empty (.pure n)

theorem year_minus (cs : List Char) : Scan.year.run ('-' :: cs) =
    ((Scan.signedYear 1).run cs).map fun r => (-(r.1 : Int), r.2) := rfl

theorem year_plus (cs : List Char) : Scan.year.run ('+' :: cs) =
    ((Scan.signedYear 10000).run cs).map fun r => ((r.1 : Int), r.2) := rfl

/-- Without a sign a year has four digits. -/
theorem year_plain {cs : List Char} (unsigned : ∀ c ∈ cs.head?, c.isDigit = true) :
    Scan.year.run cs = (Scan.plainYear.run cs).map fun r => ((r.1 : Int), r.2) := by
  unfold Scan.year StateT.run
  dsimp only
  split
  · exact absurd (unsigned '-' rfl) (by decide)
  · exact absurd (unsigned '+' rfl) (by decide)
  · rfl

theorem head?_paddedDecimal {width n : Nat} (rest : List Char) :
    ∀ c ∈ ((Text.paddedDecimal width n).toList ++ rest).head?, c.isDigit = true := by
  intro c first
  refine isDigit_of_number? (number?_paddedDecimal width n) c ?_
  cases digits : (Text.paddedDecimal width n).toList with
  | nil =>
    rw [toList_paddedDecimal, List.append_eq_nil_iff] at digits
    exact absurd digits.2 Nat.toDigits_ne_nil
  | cons d more =>
    rw [digits] at first
    obtain rfl : d = c := Option.some.inj first
    exact List.mem_cons_self

/-- A year is taken with its sign, if it has one. -/
theorem takes_year (y : Int) : Takes Scan.year (Date.renderYear y ++ "-") y := by
  intro rest
  unfold Date.renderYear
  dsimp only
  split_ifs with negative small
  · have taken := takes_signedYear (by omega : 1 ≤ y.natAbs) rest
    have text : ("-" ++ Text.paddedDecimal 4 y.natAbs ++ "-").toList ++ rest =
        '-' :: ((Text.paddedDecimal 4 y.natAbs ++ "-").toList ++ rest) := by simp
    have number : -(y.natAbs : Int) = y := by omega
    rw [text, year_minus, taken, Option.map_some, number]
  · have taken := takes_plainYear (n := y.natAbs) (by omega) rest
    have number : (y.natAbs : Int) = y := by omega
    have digits : ∀ c ∈ ((Text.paddedDecimal 4 y.natAbs ++ "-").toList ++ rest).head?,
        c.isDigit = true := by
      rw [String.toList_append, List.append_assoc]
      exact head?_paddedDecimal _
    rw [year_plain digits, taken, Option.map_some, number]
  · have taken := takes_signedYear (by omega : 10000 ≤ y.natAbs) rest
    have text : ("+" ++ Text.paddedDecimal 4 y.natAbs ++ "-").toList ++ rest =
        '+' :: ((Text.paddedDecimal 4 y.natAbs ++ "-").toList ++ rest) := by simp
    have number : (y.natAbs : Int) = y := by omega
    rw [text, year_plus, taken, Option.map_some, number]

/-- A date is taken as it was rendered. -/
theorem takes_date {d : Date} (month : d.month < 100) (day : d.day < 100) :
    Takes Scan.date d.render d := by
  have text : d.render = (Date.renderYear d.year ++ "-") ++ (Text.paddedDecimal 2 d.month ++
      ("-" ++ Text.paddedDecimal 2 d.day)) := by
    simp [Date.render, String.append_assoc]
  rw [text]
  unfold Scan.date
  refine (takes_year d.year).bind ?_
  refine (takes_digits (by decide) month).bind ?_
  refine (takes_char rfl).bind ?_
  exact (takes_digits (by decide) day).bind_empty (.pure d)

end Year

/-! ### Times of day -/

/-- A clock is taken as the second of the day that it shows. -/
theorem takes_clock {second : Nat} (inside : second < 86400) :
    Takes Scan.clock (renderClock second) second := by
  have text : renderClock second = Text.paddedDecimal 2 (second / 3600) ++ (":" ++
      (Text.paddedDecimal 2 (second / 60 % 60) ++ (":" ++ Text.paddedDecimal 2 (second % 60)))) := by
    simp [renderClock, String.append_assoc]
  have sum : (second / 3600 * 60 + second / 60 % 60) * 60 + second % 60 = second := by omega
  rw [text]
  unfold Scan.clock
  refine (takes_digits (by decide) (by omega)).bind ?_
  refine (takes_char rfl).bind ?_
  refine (takes_digits (by decide) (by omega)).bind ?_
  refine (takes_char rfl).bind ?_
  refine (takes_digits (by decide) (by omega)).bind_empty ?_
  refine (takes_guard ⟨by omega, by omega, by omega⟩).bind_empty ?_
  rw [sum]
  exact .pure second

/-- Up to six digits behind a point are a part of a second in micros. -/
theorem takes_fraction_digits {width n : Nat} (wide : 0 < width) (most : width ≤ 6)
    (small : n < 10 ^ width) :
    Takes Scan.fraction ("." ++ Text.paddedDecimal width n ++ "+") (n * 10 ^ (6 - width)) := by
  have number := number?_paddedDecimal width n
  have length := length_paddedDecimal wide small
  have digits : Takes (Scan.before '+') ("." ++ Text.paddedDecimal width n ++ "+")
      ('.' :: (Text.paddedDecimal width n).toList) := by
    refine takes_before (fun c member => ?_) (by simp)
    rcases List.mem_cons.1 member with rfl | digit
    · decide
    · rintro rfl
      exact absurd (isDigit_of_number? number _ digit) (by decide)
  unfold Scan.fraction
  refine digits.bind_empty ?_
  refine (takes_lift number).bind_empty ?_
  refine (takes_guard ⟨rfl, by omega, by omega⟩).bind_empty ?_
  rw [length]
  exact .pure _

/-- A fraction is taken up to the sign behind it, however many digits are shown. -/
theorem takes_fraction {micros : Nat} (inside : micros < 1000000) :
    Takes Scan.fraction (Instant.renderFraction micros ++ "+") micros := by
  unfold Instant.renderFraction
  split_ifs with none thousands
  · subst none
    have nothing : Takes (Scan.before '+') ("" ++ "+") [] := takes_before (by simp) rfl
    exact nothing.bind_empty (.pure 0)
  · have taken := takes_fraction_digits (by decide : 0 < 3) (by decide)
      (by omega : micros / 1000 < 10 ^ 3)
    have whole : micros / 1000 * 10 ^ (6 - 3) = micros := by omega
    rwa [whole] at taken
  · have taken := takes_fraction_digits (by decide : 0 < 6) (by decide) inside
    rwa [Nat.sub_self, Nat.pow_zero, Nat.mul_one] at taken

/-! ### Whole texts -/

theorem readDate?_render {d : Date} (month : d.month < 100) (day : d.day < 100) :
    readDate? d.render = some d :=
  (takes_date month day).whole

/-- A time of day is read as it was rendered, to the micro. -/
theorem readTime?_render {second micros : Nat} (clock : second < 86400) (inside : micros < 1000000) :
    readTime? (renderClock second ++ "." ++ Text.paddedDecimal 6 micros) =
      some (second * 1000000 + micros) := by
  rw [String.append_assoc]
  refine Takes.whole ?_
  refine (takes_clock clock).bind ?_
  refine (takes_char rfl).bind ?_
  exact (takes_digits (by decide) inside).bind_empty (.pure _)

/-- A date and a time of day with its fraction, in UTC. -/
theorem readInstant?_render {d : Date} (month : d.month < 100) (day : d.day < 100)
    {second micros : Nat} (clock : second < 86400) (inside : micros < 1000000) :
    readInstant? (d.render ++ "T" ++ renderClock second ++ Instant.renderFraction micros ++ "+00:00") =
      some (d, second * 1000000 + micros) := by
  have text : d.render ++ "T" ++ renderClock second ++ Instant.renderFraction micros ++ "+00:00" =
      d.render ++ ("T" ++ (renderClock second ++ ((Instant.renderFraction micros ++ "+") ++
        ("0" ++ ("0" ++ (":" ++ ("0" ++ "0"))))))) := by
    simp only [String.append_assoc]
    rfl
  rw [text]
  refine Takes.whole ?_
  refine (takes_date month day).bind ?_
  refine (takes_char rfl).bind ?_
  refine (takes_clock clock).bind ?_
  refine (takes_fraction inside).bind ?_
  refine (takes_char rfl).bind ?_
  refine (takes_char rfl).bind ?_
  refine (takes_char rfl).bind ?_
  refine (takes_char rfl).bind ?_
  exact (takes_char rfl).bind_empty (.pure _)

end DataShelf.Calendar
