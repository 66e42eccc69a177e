/-
The time of day as it stands in reports: a date of the Gregorian calendar
and a time of day in UTC, with as many groups of three digits after the
second as are needed.
-/
namespace RemapSynth.Command

/-- A day of the Gregorian calendar. -/
structure Date where
  year : Nat
  month : Nat
  day : Nat
  deriving Repr, DecidableEq

/-- Days in four hundred years. -/
def daysInCycle : Nat := 146097

/-- Days from the first of March of the year zero to the first of January 1970. -/
def daysToEpoch : Nat := 719468

/-- The date that is `n` days after the first of January 1970. Years are counted from March on, so
that a leap day is the last day of its year. -/
def Date.ofDays (n : Nat) : Date :=
  let n := n + daysToEpoch
  let day := n % daysInCycle
  let year := (day - day / 1460 + day / 36524 - day / 146096) / 365
  let dayOfYear := day - (365 * year + year / 4 - year / 100)
  let month := (5 * dayOfYear + 2) / 153
  { year := n / daysInCycle * 400 + year + (if month < 10 then 0 else 1)
    month := if month < 10 then month + 3 else month - 9
    day := dayOfYear - (153 * month + 2) / 5 + 1 }

/-- A number with zeros before it up to a width. -/
def zeroPadded (width n : Nat) : String :=
  let digits := Nat.toDigits 10 n
  .ofList (List.replicate (width - digits.length) '0' ++ digits)

/-- The part of a second, in groups of three digits. -/
def fractionText (nanos : Nat) : String :=
  if nanos = 0 then ""
  else if nanos % 1000000 = 0 then "." ++ zeroPadded 3 (nanos / 1000000)
  else if nanos % 1000 = 0 then "." ++ zeroPadded 6 (nanos / 1000)
  else "." ++ zeroPadded 9 nanos

/-- The moment `seconds` and `nanos` after the beginning of 1970. -/
def momentText (seconds nanos : Nat) : String :=
  let date := Date.ofDays (seconds / 86400)
  let time := seconds % 86400
  zeroPadded 4 date.year ++ "-" ++ zeroPadded 2 date.month ++ "-" ++ zeroPadded 2 date.day ++ "T" ++
    zeroPadded 2 (time / 3600) ++ ":" ++ zeroPadded 2 (time / 60 % 60) ++ ":" ++
    zeroPadded 2 (time % 60) ++ fractionText nanos ++ "Z"

end RemapSynth.Command
