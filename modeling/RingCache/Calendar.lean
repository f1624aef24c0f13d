/-!
# Moments in the calendar

The date and time of day of a moment, given in nanoseconds since the start of
1970, as one text in universal time. Years are counted in cycles of 400 years,
which have the same number of days, from the first of March of the year 0, so
that a leap day is the last day of its year.
-/

namespace RingCache.Calendar

/-- A number with at least so many digits. -/
def padded (width number : Nat) : String :=
  let digits := (toString number).toList
  String.ofList (List.replicate (width - digits.length) '0' ++ digits)

/-- A day of the calendar. -/
structure Date where
  /-- The year. -/
  year : Nat
  /-- The month, from 1 on. -/
  month : Nat
  /-- The day of the month, from 1 on. -/
  day : Nat
  deriving Repr, DecidableEq

/-- The days from the first of March of the year 0 to the start of 1970. -/
def epoch : Nat := 719468

/-- The date of a day, counted from the start of 1970. -/
def Date.ofDay (day : Nat) : Date :=
  let days := day + epoch
  let cycle := days / 146097
  let inCycle := days % 146097
  let year := (inCycle - inCycle / 1460 + inCycle / 36524 - inCycle / 146096) / 365
  let inYear := inCycle - (365 * year + year / 4 - year / 100)
  -- Months from March on have 31, 30, 31, 30, 31 days, over and over.
  let month := (5 * inYear + 2) / 153
  let date := inYear - (153 * month + 2) / 5 + 1
  if month < 10 then ⟨cycle * 400 + year, month + 3, date⟩
  else ⟨cycle * 400 + year + 1, month - 9, date⟩

/-- The text of a moment. -/
def moment (nanoseconds : Nat) : String :=
  let seconds := nanoseconds / 1000000000
  let date := Date.ofDay (seconds / 86400)
  padded 4 date.year ++ "-" ++ padded 2 date.month ++ "-" ++ padded 2 date.day ++ "T" ++
    padded 2 (seconds / 3600 % 24) ++ ":" ++ padded 2 (seconds / 60 % 60) ++ ":" ++
    padded 2 (seconds % 60) ++ "." ++ padded 9 (nanoseconds % 1000000000) ++ "+00:00"

end RingCache.Calendar
