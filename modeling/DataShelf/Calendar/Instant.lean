import DataShelf.Calendar.Date

/-!
# Times of day and instants

Both are counts of microseconds: since midnight, and since the beginning of 1970 in UTC. An instant
is shown with as many digits of its fraction as it needs, in groups of three.
-/

namespace DataShelf.Calendar
set_option autoImplicit false

/-- The microseconds of a second. -/
def microsPerSecond : Int := 1000000

/-- The seconds of a day. -/
def secondsPerDay : Int := 86400

/-- Hours, minutes and seconds of a second of the day, with colons between them. -/
def renderClock (second : Nat) : String :=
  Text.paddedDecimal 2 (second / 3600) ++ ":" ++ Text.paddedDecimal 2 (second / 60 % 60) ++ ":" ++
    Text.paddedDecimal 2 (second % 60)

/-- The low 32 bits of an integer. -/
def low32 (n : Int) : Nat := (n % Nat.pow 2 32).toNat

/-- A time of day with six digits of its fraction; nothing if it is none. Seconds and nanoseconds
are 32-bit counts, and a count beyond that starts over. -/
def renderTime? (micros : Int) : Option String :=
  let second := low32 (micros.tdiv microsPerSecond)
  let nanos := low32 (micros.tmod microsPerSecond * 1000)
  if second < 86400 ∧ nanos < 1000000000 then
    some (renderClock second ++ "." ++ Text.paddedDecimal 6 (nanos / 1000))
  else none

/-- An instant, as microseconds since the beginning of 1970. -/
structure Instant where
  micros : Int
  deriving DecidableEq, Inhabited, Repr

namespace Instant

/-- The day in which an instant lies. -/
def date (i : Instant) : Date := Date.ofDays (i.micros.fdiv (microsPerSecond * secondsPerDay))

/-- The instant of a count of microseconds, if its year is one that dates are shown for. -/
def ofMicros? (micros : Int) : Option Instant :=
  if (date ⟨micros⟩).inRange then some ⟨micros⟩ else none

/-- A fraction of a second: nothing, three digits or six. -/
def renderFraction (micros : Nat) : String :=
  if micros = 0 then ""
  else if micros % 1000 = 0 then "." ++ Text.paddedDecimal 3 (micros / 1000)
  else "." ++ Text.paddedDecimal 6 micros

/-- Date, time and the offset of UTC. -/
def render (i : Instant) : String :=
  let second := (i.micros.fdiv microsPerSecond).fmod secondsPerDay
  i.date.render ++ "T" ++ renderClock second.toNat ++
    renderFraction (i.micros.fmod microsPerSecond).toNat ++ "+00:00"

end Instant
end DataShelf.Calendar
