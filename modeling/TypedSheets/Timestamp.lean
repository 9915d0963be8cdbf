/-!
# Timestamps

The text of a moment, given by the nanoseconds that have passed since the beginning of
1970 in universal time: date, time of day, and as many groups of three decimal places as
the moment needs.
-/

namespace TypedSheets.Timestamp

/-- A date of the Gregorian calendar. -/
structure Date where
  year : Nat
  month : Nat
  day : Nat
deriving DecidableEq

/-- The days of the months from March on. The year of the count begins with March, so
that a leap day is its last day. -/
def monthLengths : List Nat := [31, 30, 31, 30, 31, 31, 30, 31, 30, 31, 31, 29]

/-- How many months are over at a day of the year, and how many days of the next one. -/
def monthOf (day : Nat) : List Nat → Nat × Nat
  | [] => (0, day)
  | length :: lengths =>
      if day < length then (0, day)
      else
        let (months, rest) := monthOf (day - length) lengths
        (months + 1, rest)

/-- The days of the four hundred years after which the calendar repeats. -/
def cycleLength : Nat := 146097

/-- The days from the first of March of the year 0 to the beginning of 1970. -/
def epochDay : Nat := 719468

/-- The days of the years before one of a cycle, the first of them being 0. -/
def daysBefore (year : Nat) : Nat := 365 * year + year / 4 - year / 100

/-- The year of a cycle that a day of the cycle lies in. -/
def yearOf (day : Nat) : Nat :=
  (day - day / 1460 + day / 36524 - day / 146096) / 365

/-- The date of a day counted from the beginning of 1970. -/
def Date.ofDay (day : Nat) : Date :=
  let shifted := day + epochDay
  let inCycle := shifted % cycleLength
  let year := yearOf inCycle
  let (months, rest) := monthOf (inCycle - daysBefore year) monthLengths
  let january := 10
  { year := 400 * (shifted / cycleLength) + year + (if january ≤ months then 1 else 0)
    month := (months + 2) % 12 + 1
    day := rest + 1 }

/-- A number with zeros before it up to a number of digits. -/
def digits (width number : Nat) : String :=
  let text := Nat.repr number
  String.ofList (List.replicate (width - text.length) '0') ++ text

/-- The decimal places of a second, none for a whole one. -/
def fraction (nanoseconds : Nat) : String :=
  if nanoseconds = 0 then ""
  else if nanoseconds % 1000000 = 0 then "." ++ digits 3 (nanoseconds / 1000000)
  else if nanoseconds % 1000 = 0 then "." ++ digits 6 (nanoseconds / 1000)
  else "." ++ digits 9 nanoseconds

/-- The text of a moment. -/
def render (nanoseconds : Nat) : String :=
  let second := nanoseconds / 1000000000
  let date := Date.ofDay (second / 86400)
  let time := second % 86400
  digits 4 date.year ++ "-" ++ digits 2 date.month ++ "-" ++ digits 2 date.day ++ "T"
    ++ digits 2 (time / 3600) ++ ":" ++ digits 2 (time / 60 % 60) ++ ":" ++ digits 2 (time % 60)
    ++ fraction (nanoseconds % 1000000000) ++ "+00:00"

end TypedSheets.Timestamp
