/-
Whole numbers in decimal, read from ASCII digits.
-/
import RemapSynth.Text.Word

namespace RemapSynth.Chars

/-- The number that digits stand for, whatever their count; leading zeros change nothing. -/
def natOfDigits (digits : List Char) : Nat :=
  digits.foldl (fun n c => n * 10 + (c.toNat - 48)) 0

/-- The number written by one or more ASCII digits and nothing else. -/
def readNat? (s : List Char) : Option Nat :=
  if s.isEmpty || !s.all Text.isAsciiDigit then none else some (natOfDigits s)

/-- A number of at most `max`, with an optional plus sign before its digits. -/
def readUpTo? (max : Nat) (s : List Char) : Option Nat :=
  let digits :=
    match s with
    | '+' :: digits => digits
    | digits => digits
  (readNat? digits).filter (· ≤ max)

end RemapSynth.Chars
