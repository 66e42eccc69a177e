/-
Reading a decimal as a double by one scaling step: a 64-bit whole number is
rounded to a double and then multiplied or divided by one power of ten. Two
roundings happen, so the result may be a neighbour of the nearest double.
-/
namespace RemapSynth.Decimal

/-- The double nearest to `10 ^ n`. -/
def pow10 (n : Nat) : Float := .ofScientific 1 false n

/-- `x * 10 ^ exponent` for an exponent that is not negative; none where doubles end. -/
def scaleUp (x : Float) (exponent : Nat) : Option Float :=
  if exponent ≤ 308 then
    let y := x * pow10 exponent
    if y.isInf then none else some y
  else if x == 0.0 then some x
  else none

/-- `x / 10 ^ exponent`, in steps of at most 308 places. A magnitude of 64 bits is zero after two
whole steps, and stays zero. -/
def scaleDown (x : Float) (exponent : Nat) : Float :=
  let once := fun (state : Float × Nat) =>
    if state.2 ≤ 308 then (state.1 / pow10 state.2, 0)
    else (state.1 / pow10 308, state.2 - 308)
  if exponent ≤ 308 then x / pow10 exponent
  else
    let (y, rest) := once (once (x, exponent))
    if rest = 0 then y else 0.0

/-- `significand * 10 ^ exponent` by one scaling step; none where it overflows. -/
def scaled (significand : Nat) (exponent : Int) : Option Float :=
  let x := Float.ofNat significand
  if exponent < 0 then some (scaleDown x exponent.natAbs) else scaleUp x exponent.toNat

end RemapSynth.Decimal
