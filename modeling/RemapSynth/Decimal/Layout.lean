/-
How shortest digits are laid out: with a point among them, or with an
exponent when the point lies too far away.
-/
import RemapSynth.Decimal.Shortest

namespace RemapSynth.Decimal

/-- The decisions of one number format. -/
structure Layout where
  /-- Which positions of the point are written without an exponent. -/
  positional : Int → Bool
  /-- A whole number is written with `.0`. -/
  pointZero : Bool
  /-- Which of two equally near decimals is written. -/
  tie : Tie
  nan : String
  infinity : String

/-- Numbers in JSON: positional from 1e-5 up to below 1e16, always with a point or an exponent;
a tie goes to the even digit. Neither NaN nor an infinity is a JSON number, so both are `null`. -/
def Layout.json : Layout where
  positional p := -5 < p && p ≤ 16
  pointZero := true
  tie := .toEven
  nan := "null"
  infinity := "null"

/-- Numbers in TOML: always positional, always with a point; a tie goes up. -/
def Layout.toml : Layout where
  positional _ := true
  pointZero := true
  tie := .up
  nan := "nan"
  infinity := "inf"

/-- Numbers for a reader: always positional, with a point only where there is a fraction; a tie goes
up. -/
def Layout.plain : Layout where
  positional _ := true
  pointZero := false
  tie := .up
  nan := "NaN"
  infinity := "inf"

/-- The digits with the point at its place. -/
def Digits.positional (d : Digits) (pointZero : Bool) : List Char :=
  let n : Int := d.digits.length
  if d.point ≤ 0 then
    ['0', '.'] ++ List.replicate (-d.point).toNat '0' ++ d.digits
  else if n ≤ d.point then
    d.digits ++ List.replicate (d.point - n).toNat '0' ++ (if pointZero then ['.', '0'] else [])
  else
    d.digits.take d.point.toNat ++ ['.'] ++ d.digits.drop d.point.toNat

/-- One digit, the point, the other digits, and the power of ten with its sign. -/
def Digits.scientific (d : Digits) : List Char :=
  let exponent := d.point - 1
  let mantissa :=
    match d.digits with
    | first :: second :: more => first :: '.' :: second :: more
    | digits => digits
  mantissa ++ ['e', if exponent < 0 then '-' else '+'] ++ Nat.toDigits 10 exponent.natAbs

/-- A number taken apart, written in a layout. -/
def Layout.write (layout : Layout) : Parts → List Char
  | .nan => layout.nan.toList
  | .infinite negative =>
    (if negative && layout.infinity ≠ "null" then ['-'] else []) ++ layout.infinity.toList
  | .finite negative magnitude =>
    let d := shortest layout.tie magnitude
    let body :=
      if magnitude.mantissa = 0 then d.positional layout.pointZero
      else if layout.positional d.point then d.positional layout.pointZero
      else d.scientific
    (if negative then ['-'] else []) ++ body

def Layout.float (layout : Layout) (x : Float) : String := .ofList (layout.write (.ofFloat x))

def Layout.float32 (layout : Layout) (x : Float32) : String :=
  .ofList (layout.write (.ofFloat32 x))

/-- The double with the same shortest digits as a single-precision number; a tie goes to the even
digit. -/
def doubleOf (x : Float32) : Float :=
  match Parts.ofFloat32 x with
  | .finite negative magnitude =>
    let d := shortest .toEven magnitude
    let whole := d.digits.foldl (fun n c => n * 10 + (c.toNat - 48)) 0
    let power := d.point - d.digits.length
    let y := Float.ofScientific whole (decide (power < 0)) power.natAbs
    if negative then -y else y
  | .nan | .infinite _ => x.toFloat

end RemapSynth.Decimal
