import Patchbay.Duration

/-! Moments as dates and times of day. -/

namespace Patchbay

/-- A moment, counted in nanoseconds from the beginning of 1970. -/
structure Moment where
  nanoseconds : Nat
  deriving DecidableEq, Repr

namespace Moment

/-- The year, month and day of a day counted from the beginning of 1970. Years are counted from
March, so that a leap day is the last day of its year. -/
def dateOfDay (day : Nat) : Nat × Nat × Nat :=
  let shifted := day + 719468
  let (era, inEra) := (shifted / 146097, shifted % 146097)
  let year := (inEra - inEra / 1460 + inEra / 36524 - inEra / 146096) / 365
  let inYear := inEra - (365 * year + year / 4 - year / 100)
  let month := (5 * inYear + 2) / 153
  let inMonth := inYear - (153 * month + 2) / 5 + 1
  if month < 10 then (era * 400 + year, month + 3, inMonth)
  else (era * 400 + year + 1, month - 9, inMonth)

/-- A number with zeros before it up to a number of digits. -/
def digits (count n : Nat) : Bytes :=
  let text := natText n
  List.replicate (count - text.length) 48 ++ text

/-- A moment in words, with the fraction of the second to its last digit that is not zero. -/
def text (moment : Moment) : Bytes :=
  let (seconds, rest) := (moment.nanoseconds / 1000000000, moment.nanoseconds % 1000000000)
  let (year, month, day) := dateOfDay (seconds / 86400)
  let time := seconds % 86400
  let fraction : Bytes :=
    if rest = 0 then [] else "." ++ ((digits 9 rest).reverse.dropWhile (· == 48)).reverse
  digits 4 year ++ "-" ++ digits 2 month ++ "-" ++ digits 2 day ++ "T" ++ digits 2 (time / 3600) ++
    ":" ++
    digits 2 (time / 60 % 60) ++ ":" ++ digits 2 (time % 60) ++ fraction ++ "Z"

end Moment

end Patchbay
