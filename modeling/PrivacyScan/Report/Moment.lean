/-!
The time at which a report is made.
-/

namespace PrivacyScan.Report

structure Moment where
  year : Nat
  month : Nat
  day : Nat
  hour : Nat
  minute : Nat
  second : Nat
deriving Repr, DecidableEq

namespace Moment

/-- The moment so many seconds after the start of the year 1970. Years are counted from March on, so
that the day of a leap year is the last one of its year. -/
def ofSeconds (seconds : Nat) : Moment :=
  let days := seconds / 86400 + 719468
  let inEra := days % 146097
  let yearInEra := (inEra - inEra / 1460 + inEra / 36524 - inEra / 146096) / 365
  let inYear := inEra - (365 * yearInEra + yearInEra / 4 - yearInEra / 100)
  let fromMarch := (5 * inYear + 2) / 153
  let month := if fromMarch < 10 then fromMarch + 3 else fromMarch - 9
  { year := yearInEra + days / 146097 * 400 + (if month ≤ 2 then 1 else 0)
    month
    day := inYear - (153 * fromMarch + 2) / 5 + 1
    hour := seconds % 86400 / 3600
    minute := seconds % 3600 / 60
    second := seconds % 60 }

def twoDigits (number : Nat) : String :=
  if number < 10 then "0" ++ toString number else toString number

def fourDigits (number : Nat) : String :=
  let digits := toString number
  String.ofList (List.replicate (4 - digits.length) '0') ++ digits

/-- The parts from the year down to the second. -/
def iso (moment : Moment) : String :=
  fourDigits moment.year ++ "-" ++ twoDigits moment.month ++ "-" ++ twoDigits moment.day ++ "T" ++
    twoDigits moment.hour ++ ":" ++ twoDigits moment.minute ++ ":" ++ twoDigits moment.second

def monthNames : List String := ["January", "February", "March", "April", "May", "June", "July",
  "August", "September", "October", "November", "December"]

def written (moment : Moment) : String :=
  monthNames.getD (moment.month - 1) "" ++ " " ++ twoDigits moment.day ++ ", " ++
    fourDigits moment.year ++ " at " ++ twoDigits moment.hour ++ ":" ++ twoDigits moment.minute

end Moment

end PrivacyScan.Report
