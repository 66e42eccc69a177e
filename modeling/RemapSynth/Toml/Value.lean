/-
TOML values. A table keeps its entries in the order they were written.
-/
namespace RemapSynth

inductive Toml
  | str (value : String)
  | int (value : Int)
  | float (value : Float)
  | bool (value : Bool)
  /-- A date, a time, or both, as written. -/
  | moment (text : String)
  | arr (items : List Toml)
  | table (entries : List (String × Toml))
  deriving Inhabited, Repr

end RemapSynth
