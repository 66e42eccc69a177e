/-
The shortest decimal that reads back as the same binary number.

Decimal grids are tried from coarse to fine. On each, only the two
neighbours of the exact value can lie in the interval of reals that round
to it, since every grid point in the interval has a neighbour of the value
between it and the value, or is one. The first grid with a hit has the
fewest digits; of two hits the nearer is taken, of two equally near the one
that the format's tie rule names.
-/
import RemapSynth.Decimal.Binary

namespace RemapSynth.Decimal

/-- A decimal magnitude `0.d₁d₂… * 10 ^ point`: its digits, and where the point stands among
them, counted from the left. -/
structure Digits where
  digits : List Char
  point : Int
  deriving Repr, DecidableEq

/-- Which of two equally near points of a grid is taken: the even one, or the upper one. -/
inductive Tie
  | toEven
  | up
  deriving Repr, DecidableEq

/-- Whether the lower of two equally near points is taken. -/
def Tie.takesLower : Tie → Nat → Bool
  | .toEven, lower => lower % 2 == 0
  | .up, _ => false

/-- `mantissa`, in quarters of the last binary place, against points of the grid `10 ^ grid`:
the value is to `k` as `quarters * unit` is to `k * step`. -/
structure Grid where
  unit : Nat
  step : Nat

/-- The common scale of quarters of `2 ^ exponent` and multiples of `10 ^ grid`. -/
def Grid.between (exponent grid : Int) : Grid where
  unit := twoTo (exponent - 2).toNat * tenTo (-grid).toNat
  step := twoTo (2 - exponent).toNat * tenTo grid.toNat

/-- The grid point that stands for `b`, if one of the value's two neighbours rounds to it. -/
def hit? (tie : Tie) (b : Binary) (grid : Int) : Option Nat :=
  let g := Grid.between b.exponent grid
  let value := 4 * b.mantissa * g.unit
  let low := (4 * b.mantissa - if b.narrowBelow then 1 else 2) * g.unit
  let high := (4 * b.mantissa + 2) * g.unit
  let closed := b.mantissa % 2 == 0
  let inside := fun k : Nat =>
    if closed then decide (low ≤ k * g.step ∧ k * g.step ≤ high)
    else decide (low < k * g.step ∧ k * g.step < high)
  let below := value / g.step
  let above := below + 1
  let belowGap := value - below * g.step
  let aboveGap := above * g.step - value
  match inside below, inside above with
  | true, true =>
    if belowGap < aboveGap ∨ (belowGap = aboveGap ∧ tie.takesLower below) then some below
    else some above
  | true, false => some below
  | false, true => some above
  | false, false => none

/-- The first hit among `fuel` grids from `10 ^ grid` downwards, with its grid. -/
def firstHit (tie : Tie) (b : Binary) : Nat → Int → Nat × Int
  | 0, grid => (0, grid)
  | fuel + 1, grid =>
    match hit? tie b grid with
    | some k => if k = 0 then firstHit tie b fuel (grid - 1) else (k, grid)
    | none => firstHit tie b fuel (grid - 1)

/-- A power of ten above the magnitude: `2 ^ n` has no more than `n * 0.30103 + 2` places. -/
def topGrid (b : Binary) : Int :=
  let bits : Int := Nat.log2 b.mantissa + 1 + b.exponent
  bits * 30103 / 100000 + 2

/-- The shortest decimal in the interval of `b`; twenty-four grids are enough for the seventeen
digits a double needs at most. Zero is the single digit zero. -/
def shortest (tie : Tie) (b : Binary) : Digits :=
  if b.mantissa = 0 then ⟨['0'], 1⟩
  else
    let (k, grid) := firstHit tie b 24 (topGrid b)
    let digits := Nat.toDigits 10 k
    ⟨digits, digits.length + grid⟩

end RemapSynth.Decimal
