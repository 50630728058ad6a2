/-
Module: QueryDesk.Moment
Purpose: Moments, counted in microseconds from the beginning of 1970, as ISO 8601 text in UTC.
Imports: none
Main exports: Moment, Moment.text
-/

namespace QueryDesk

/-- A moment from 1970 on. -/
structure Moment where
  microseconds : Nat
deriving Repr, Inhabited, DecidableEq

namespace Moment

/-- A number with at least so many digits. -/
def padded (width value : Nat) : String :=
  let digits := toString value
  String.ofList (List.replicate (width - digits.length) '0') ++ digits

/-- The days of 400 years. -/
def daysPerEra : Nat := 146097

/-- The year, the month and the day of a count of days from the beginning of 1970. Years are counted
from March on, so that a leap day is the last day of its year. -/
def dateOfDays (days : Nat) : Nat × Nat × Nat :=
  let shifted := days + 719468
  let era := shifted / daysPerEra
  let dayOfEra := shifted % daysPerEra
  let yearOfEra := (dayOfEra - dayOfEra / 1460 + dayOfEra / 36524 - dayOfEra / 146096) / 365
  let dayOfYear := dayOfEra - (365 * yearOfEra + yearOfEra / 4 - yearOfEra / 100)
  let turn := (5 * dayOfYear + 2) / 153
  let day := dayOfYear - (153 * turn + 2) / 5 + 1
  let month := if turn < 10 then turn + 3 else turn - 9
  let year := yearOfEra + 400 * era
  (if month ≤ 2 then year + 1 else year, month, day)

/-- The text of a moment. Microseconds are left out where there are none. -/
def text (moment : Moment) : String :=
  let seconds := moment.microseconds / 1000000
  let rest := moment.microseconds % 1000000
  let (year, month, day) := dateOfDays (seconds / 86400)
  let time := seconds % 86400
  let date := padded 4 year ++ "-" ++ padded 2 month ++ "-" ++ padded 2 day
  let clock := padded 2 (time / 3600) ++ ":" ++ padded 2 (time / 60 % 60) ++ ":" ++
    padded 2 (time % 60)
  let fraction := if rest == 0 then "" else "." ++ padded 6 rest
  date ++ "T" ++ clock ++ fraction ++ "+00:00"

end Moment

end QueryDesk
