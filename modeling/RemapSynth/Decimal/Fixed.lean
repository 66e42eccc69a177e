/-
A number with a fixed count of decimal places. The exact binary value is
rounded to the nearest multiple of the last place; a tie goes to the even
multiple.
-/
import RemapSynth.Decimal.Binary

namespace RemapSynth.Decimal

/-- The quotient of two naturals rounded to nearest, ties to even. -/
def roundDiv (num den : Nat) : Nat :=
  let q := num / den
  let r := num % den
  if 2 * r > den ∨ (2 * r = den ∧ q % 2 = 1) then q + 1 else q

/-- The magnitude in units of `10 ^ (-places)`, rounded. -/
def Binary.inPlaces (b : Binary) (places : Nat) : Nat :=
  roundDiv (b.mantissa * twoTo b.exponent.toNat * tenTo places) (twoTo (-b.exponent).toNat)

/-- A count of units of `10 ^ (-places)`, written with a point. -/
def placed (units places : Nat) : List Char :=
  let digits := Nat.toDigits 10 units
  let padded := List.replicate (places + 1 - digits.length) '0' ++ digits
  let whole := padded.take (padded.length - places)
  if places = 0 then whole else whole ++ ['.'] ++ padded.drop (padded.length - places)

/-- A double with `places` decimal places. -/
def fixed (places : Nat) (x : Float) : String :=
  match Parts.ofFloat x with
  | .nan => "NaN"
  | .infinite negative => if negative then "-inf" else "inf"
  | .finite negative b =>
    .ofList ((if negative then ['-'] else []) ++ placed (b.inPlaces places) places)

end RemapSynth.Decimal
