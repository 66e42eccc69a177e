/-
The numbers that speeds and costs are computed in. A run computes in
doubles; over the rationals the same definitions say what would be computed
without rounding.
-/
import RemapSynth.Duration
import RemapSynth.Width

namespace RemapSynth.Score

/-- Numbers with what scoring needs: arithmetic, comparison, rounding. -/
class Scalar (α : Type) extends OfScientific α, Add α, Mul α, Div α, Neg α, LT α, LE α where
  decLt : DecidableLT α
  decLe : DecidableLE α
  ofNat : Nat → α
  /-- The nearest whole number; a half goes away from zero. -/
  round : α → α
  /-- The number as a word of 64 bits: fractions cut off, the bounds held. -/
  toWord : α → Nat
  /-- Whether it stands for no number. -/
  isNaN : α → Bool
  /-- Whether it is an ordinary number. -/
  isFinite : α → Bool

instance instDecidableLTOfScalar {α : Type} [Scalar α] : DecidableLT α := Scalar.decLt

instance instDecidableLEOfScalar {α : Type} [Scalar α] : DecidableLE α := Scalar.decLe

instance : Scalar Float where
  decLt := inferInstance
  decLe := inferInstance
  ofNat := Float.ofNat
  round := Float.round
  toWord x := x.toUInt64.toNat
  isNaN := Float.isNaN
  isFinite := Float.isFinite

/-- The nearest whole number of a rational; a half goes away from zero. -/
def roundRat (q : Rat) : Int := if q < 0 then -(-q + 1 / 2).floor else (q + 1 / 2).floor

instance : Scalar Rat where
  decLt := inferInstance
  decLe := inferInstance
  ofNat n := (n : Rat)
  round q := (roundRat q : Rat)
  toWord q := min q.floor.toNat Width.maxWord
  isNaN _ := false
  isFinite _ := true

namespace Scalar

variable {α : Type} [Scalar α]

/-- The larger of two numbers, the second when they are equal; of a number and no number, the
number. -/
def larger (a b : α) : α :=
  if isNaN a then b else if isNaN b then a else if b < a then a else b

/-- A span of time in seconds. -/
def ofDuration (d : Duration) : α := ofNat d.seconds + ofNat d.subsecond / ofNat Duration.perSecond

end Scalar
end RemapSynth.Score
