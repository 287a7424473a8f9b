/-! The time of day in log lines. -/

namespace GoldenSuite.Clock

/-- A number in decimal digits, with zeros in front up to a width. -/
def digits (width n : Nat) : String :=
  let text := toString n
  String.ofList (List.replicate (width - text.length) '0') ++ text

/-- The month and the day of a day, counted from the first of January 1970. Years are taken to
begin in March, so that a leap day is the last day of its year. -/
def monthAndDay (day : Nat) : Nat × Nat :=
  let shifted := day + 719468
  let ofEra := shifted % 146097
  let yearOfEra := (ofEra - ofEra / 1460 + ofEra / 36524 - ofEra / 146096) / 365
  let dayOfYear := ofEra - (365 * yearOfEra + yearOfEra / 4 - yearOfEra / 100)
  let month := (5 * dayOfYear + 2) / 153
  (if month < 10 then month + 3 else month - 9, dayOfYear - (153 * month + 2) / 5 + 1)

/-- How a time, in milliseconds since the beginning of 1970, stands in a log line. -/
def text (milliseconds : Nat) : String :=
  let seconds := milliseconds / 1000
  let (month, day) := monthAndDay (seconds / 86400)
  digits 2 month ++ "-" ++ digits 2 day ++ "|" ++ digits 2 (seconds / 3600 % 24) ++ ":"
    ++ digits 2 (seconds / 60 % 60) ++ ":" ++ digits 2 (seconds % 60) ++ "."
    ++ digits 3 (milliseconds % 1000)

end GoldenSuite.Clock
