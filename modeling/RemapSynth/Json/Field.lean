/-
Data written as JSON objects in which every key may be missing: a key
without a value, and one of another kind of value, count as missing. Also
the ways in which such data is written.
-/
import RemapSynth.Json.Value

namespace RemapSynth.Json

/-- The value of a key, when it is not null. -/
def field? (j : Json) (key : String) : Option Json :=
  match j.get? key with
  | none | some .null => none
  | some value => some value

/-- The value of a key, or null. -/
def field (j : Json) (key : String) : Json := (j.field? key).getD .null

/-- Whether a key is there, null or not. -/
def has (j : Json) (key : String) : Bool := (j.get? key).isSome

def toText? : Json → Option String
  | str s => some s
  | _ => none

/-- A whole number from zero on; of a double, what is before the point. -/
def toNat? : Json → Option Nat
  | int n => some n.toNat
  | float x => some x.toUInt64.toNat
  | _ => none

/-- A double; three texts stand for those that are no ordinary numbers. -/
def toDouble? : Json → Option Float
  | int n => some (Float.ofInt n)
  | float x => some x
  | str "NaN" => some (0.0 / 0.0)
  | str "inf" => some (1.0 / 0.0)
  | str "-inf" => some (-1.0 / 0.0)
  | _ => none

/-- A number in single precision, rounded once: a whole number does not become a double first. -/
def toSingle? : Json → Option Float32
  | int n => some (Float32.ofInt n)
  | j => j.toDouble?.map Float.toFloat32

def toBool? : Json → Option Bool
  | bool b => some b
  | _ => none

def toItems? : Json → Option (List Json)
  | arr items => some items
  | _ => none

/-- The fields of an object; of anything else none. -/
def toFields : Json → List (String × Json)
  | obj fields => fields
  | _ => []

/-- The text under a key. -/
def text? (j : Json) (key : String) : Option String := (j.field? key).bind toText?

/-- The text under a key, empty when it is missing. -/
def text (j : Json) (key : String) : String := (j.text? key).getD ""

def nat? (j : Json) (key : String) : Option Nat := (j.field? key).bind toNat?

/-- The whole number under a key, zero when it is missing. -/
def nat (j : Json) (key : String) : Nat := (j.nat? key).getD 0

def double? (j : Json) (key : String) : Option Float := (j.field? key).bind toDouble?

/-- The double under a key, zero when it is missing. -/
def double (j : Json) (key : String) : Float := (j.double? key).getD 0.0

def single? (j : Json) (key : String) : Option Float32 := (j.field? key).bind toSingle?

def flag? (j : Json) (key : String) : Option Bool := (j.field? key).bind toBool?

/-- The truth value under a key, false when it is missing. -/
def flag (j : Json) (key : String) : Bool := (j.flag? key).getD false

def items? (j : Json) (key : String) : Option (List Json) := (j.field? key).bind toItems?

/-- The items under a key, none when it is missing. -/
def items (j : Json) (key : String) : List Json := (j.items? key).getD []

def texts? (j : Json) (key : String) : Option (List String) :=
  (j.items? key).map fun items => items.filterMap toText?

/-- The texts under a key, none when it is missing. -/
def texts (j : Json) (key : String) : List String := (j.texts? key).getD []

/-- The doubles under a key, none when it is missing. -/
def doubles (j : Json) (key : String) : List Float := (j.items key).filterMap toDouble?

def ofNat (n : Nat) : Json := int n

/-- A double; those that are no ordinary numbers are written as texts. -/
def ofDouble (x : Float) : Json :=
  if x.isNaN then str "NaN" else if x.isFinite then float x
  else str (if x < 0.0 then "-inf" else "inf")

/-- A value that may be missing; null stands for it then. -/
def ofOption {α : Type} (write : α → Json) (a : Option α) : Json := a.elim null write

def ofText? (s : Option String) : Json := ofOption str s

def ofList {α : Type} (write : α → Json) (xs : List α) : Json := arr (xs.map write)

def ofTexts (xs : List String) : Json := ofList str xs

end RemapSynth.Json
