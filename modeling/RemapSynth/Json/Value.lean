/-
JSON values. A number is whole when it is written without point and
exponent and fits 64 bits, else a double. An object holds each key once,
sorted by code points.
-/
import RemapSynth.Json.Scan
import RemapSynth.Width

namespace RemapSynth

inductive Json
  | null
  | bool (value : Bool)
  | int (value : Int)
  | float (value : Float)
  | str (value : String)
  | arr (items : List Json)
  | obj (fields : List (String × Json))
  deriving Inhabited, Repr

namespace Json

/-- Fields with `key` set to `value`, in order of keys; a key that was there gets the new value. -/
def insertField {α : Type} (key : String) (value : α) :
    List (String × α) → List (String × α)
  | [] => [(key, value)]
  | (k, v) :: fields =>
    if key = k then (key, value) :: fields
    else if key < k then (key, value) :: (k, v) :: fields
    else (k, v) :: insertField key value fields

/-- An object from fields in any order; of a repeated key the last value counts. -/
def object (fields : List (String × Json)) : Json :=
  .obj (fields.foldl (fun done (key, value) => insertField key value done) [])

def get? (key : String) : Json → Option Json
  | .obj fields => (fields.find? (·.1 == key)).map (·.2)
  | _ => none

/-- Digits read until 64 bits are full: the number so far, and the digits that did not fit. -/
def readDigits (start : Nat) : List Char → Nat × List Char
  | [] => (start, [])
  | c :: digits =>
    let next := start * 10 + (c.toNat - 48)
    if next ≤ Width.maxWord then readDigits next digits else (start, c :: digits)

/-- A power of ten that is out of every double's reach. -/
def hugeExponent : Nat := 0x7fffffff

/-- The power of ten after `e`, held at `hugeExponent`. -/
def Numeral.power (n : Numeral) : Int :=
  match n.exponent with
  | none => 0
  | some (negative, digits) =>
    let size := min hugeExponent (digits.foldl (fun v c => v * 10 + (c.toNat - 48)) 0)
    if negative then -size else size

/-- The numeral as a double: the digits that fit 64 bits, scaled by a power of ten. Each part is
read on its own: digits of the whole part that do not fit count as places, those of the fraction
still follow where they fit, and digits of the fraction that do not fit are dropped. None where
doubles end. -/
def Numeral.toFloat? (n : Numeral) : Option Float :=
  let (whole, left) := readDigits 0 n.whole
  let (significand, dropped) := readDigits whole n.fraction
  let places : Int := n.fraction.length - dropped.length
  (Decimal.scaled significand (left.length - places + n.power)).map fun x =>
    if n.negative then -x else x

/-- The number a numeral stands for. A whole numeral outside 64 bits, and a negative zero, are
doubles. -/
def Numeral.toJson? (n : Numeral) : Option Json :=
  if n.fraction.isEmpty && n.exponent.isNone then
    let (value, left) := readDigits 0 n.whole
    if !left.isEmpty then n.toFloat?.map .float
    else if !n.negative then some (.int value)
    else if value = 0 then some (.float (-0.0))
    else if value ≤ Width.signBound then some (.int (-value))
    else some (.float (-(Float.ofNat value)))
  else n.toFloat?.map .float

/-- The characters of a string; none when a surrogate stands alone. -/
def Piece.chars? : List Piece → Option (List Char)
  | [] => some []
  | .char c :: pieces => (chars? pieces).map (c :: ·)
  | .unit high :: pieces =>
    if 0xd800 ≤ high ∧ high ≤ 0xdbff then
      match pieces with
      | .unit low :: pieces =>
        if 0xdc00 ≤ low ∧ low ≤ 0xdfff then
          (chars? pieces).map
            (Char.ofNat (0x10000 + (high - 0xd800) * 0x400 + (low - 0xdc00)) :: ·)
        else none
      | _ => none
    else if 0xdc00 ≤ high ∧ high ≤ 0xdfff then none
    else (chars? pieces).map (Char.ofNat high :: ·)

/-- The text of a string; none when a surrogate stands alone. -/
def textOf? (pieces : List Piece) : Option String := (Piece.chars? pieces).map String.ofList

/-- How many containers may be open at once in a text that is read as a value. -/
def maxDepth : Nat := 127

mutual

/-- The value of a tree with at most `depth` containers open at once. -/
def ofTree : Nat → Tree → Except Fault Json
  | _, .null => .ok .null
  | _, .bool b => .ok (.bool b)
  | _, .number n =>
    match n.toJson? with
    | some value => .ok value
    | none => .error .outOfRange
  | _, .string pieces =>
    match textOf? pieces with
    | some text => .ok (.str text)
    | none => .error .loneSurrogate
  | 0, .array _ => .error .tooDeep
  | depth + 1, .array items => (ofItems depth items).map .arr
  | 0, .object _ => .error .tooDeep
  | depth + 1, .object fields => (ofFields depth fields).map .obj

def ofItems : Nat → List Tree → Except Fault (List Json)
  | _, [] => .ok []
  | depth, item :: items =>
    match ofTree depth item with
    | .error e => .error e
    | .ok value => (ofItems depth items).map (value :: ·)

/-- The fields of an object, sorted; of a repeated key the last value counts. -/
def ofFields : Nat → List (List Piece × Tree) → Except Fault (List (String × Json))
  | _, [] => .ok []
  | depth, (key, item) :: fields =>
    match textOf? key, ofTree depth item with
    | none, _ => .error .loneSurrogate
    | _, .error e => .error e
    | some key, .ok value =>
      (ofFields depth fields).map fun later =>
        if later.any (·.1 == key) then later else insertField key value later

end

/-- The value of a text, or why it has none. -/
def parseChars (s : List Char) : Except Fault Json :=
  match Tree.scan s with
  | .error (fault, _) => .error fault
  | .ok tree => ofTree maxDepth tree

/-- The value of a text that is JSON. -/
def parse? (s : String) : Option Json :=
  match parseChars s.toList with
  | .ok value => some value
  | .error _ => none

end Json
end RemapSynth
