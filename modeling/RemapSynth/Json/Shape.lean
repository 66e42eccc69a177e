/-
Reading records out of a JSON text whose shape is known. A record is an
object, or an array with the fields in their order; a field nobody asked
for is passed over, whatever it holds.
-/
import RemapSynth.Json.Value

namespace RemapSynth.Json.Tree

/-- The value under a key that goes by any of `names`: none of them there, one, or an error when
there are several. -/
def field (fields : List (String × Tree)) (names : List String) : Option (Option Tree) :=
  match fields.filter fun (key, _) => names.contains key with
  | [] => some none
  | [(_, value)] => some (some value)
  | _ => none

/-- The fields of an object with their keys read. -/
def keyed? : List (List Piece × Tree) → Option (List (String × Tree))
  | [] => some []
  | (key, value) :: fields =>
    match textOf? key, keyed? fields with
    | some key, some fields => some ((key, value) :: fields)
    | _, _ => none

/-- The fields of a record, each of them named by `names`, in that order. An array needs the first
`least` of them. None for what is no such record: a field twice, more items than fields, or neither
an object nor an array. -/
def record? (least : Nat) (names : List (List String)) : Tree → Option (List (Option Tree))
  | .object fields => (keyed? fields).bind fun fields => names.mapM (field fields)
  | .array items =>
    if least ≤ items.length ∧ items.length ≤ names.length then
      some (items.map some ++ List.replicate (names.length - items.length) none)
    else none
  | _ => none

/-- A whole number of at most `max`, written without point and exponent. -/
def natUpTo? (max : Nat) : Tree → Option Nat
  | .number n =>
    match n.toJson? with
    | some (.int value) => if 0 ≤ value ∧ value.toNat ≤ max then some value.toNat else none
    | _ => none
  | _ => none

/-- A whole number from `low` to `high`, written without point and exponent. -/
def intWithin? (low high : Int) : Tree → Option Int
  | .number n =>
    match n.toJson? with
    | some (.int value) => if low ≤ value ∧ value ≤ high then some value else none
    | _ => none
  | _ => none

def float? : Tree → Option Float
  | .number n =>
    match n.toJson? with
    | some (.int value) => some (Float.ofInt value)
    | some (.float x) => some x
    | _ => none
  | _ => none

def text? : Tree → Option String
  | .string pieces => textOf? pieces
  | _ => none

/-- The items of an array, each read the same way. -/
def list? {α : Type} (read : Tree → Option α) : Tree → Option (List α)
  | .array items => items.mapM read
  | _ => none

/-- A value that may be null. -/
def nullable? {α : Type} (read : Tree → Option α) : Tree → Option (Option α)
  | .null => some none
  | tree => (read tree).map some

/-- A field that may be missing, in which case it has the value `absent`. -/
def orElse {α : Type} (absent : α) (read : Tree → Option α) : Option Tree → Option α
  | none => some absent
  | some tree => read tree

end RemapSynth.Json.Tree
