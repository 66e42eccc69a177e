/-
What a binary floating-point number stands for: sign, mantissa and power
of two, and the interval of reals that round to it.
-/
namespace RemapSynth.Decimal

/-- A finite magnitude `mantissa * 2 ^ exponent`. -/
structure Binary where
  mantissa : Nat
  exponent : Int
  /-- The gap to the next smaller number is half the gap to the next larger one. -/
  narrowBelow : Bool
  deriving Repr, DecidableEq

/-- A floating-point number taken apart. -/
inductive Parts
  | nan
  | infinite (negative : Bool)
  | finite (negative : Bool) (magnitude : Binary)
  deriving Repr, DecidableEq

def twoTo (n : Nat) : Nat := 1 <<< n

def tenTo (n : Nat) : Nat := Nat.pow 10 n

/-- Takes a bit pattern apart that has `fractionBits` bits of fraction below `exponentBits` bits
of exponent, below the sign. -/
def Parts.ofBits (fractionBits exponentBits : Nat) (bits : Nat) : Parts :=
  let fraction := bits % twoTo fractionBits
  let biased := bits / twoTo fractionBits % twoTo exponentBits
  let negative := bits / twoTo (fractionBits + exponentBits) % 2 == 1
  let bias : Int := (twoTo (exponentBits - 1) - 1 : Nat)
  if biased = twoTo exponentBits - 1 then
    if fraction = 0 then .infinite negative else .nan
  else if biased = 0 then
    .finite negative ⟨fraction, 1 - bias - fractionBits, false⟩
  else
    .finite negative
      ⟨fraction + twoTo fractionBits, biased - bias - fractionBits, fraction == 0 && biased > 1⟩

def Parts.ofFloat (x : Float) : Parts := .ofBits 52 11 x.toBits.toNat

def Parts.ofFloat32 (x : Float32) : Parts := .ofBits 23 8 x.toBits.toNat

end RemapSynth.Decimal
