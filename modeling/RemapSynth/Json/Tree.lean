/-
A JSON text as it is written: numbers with their digits, strings with their
escapes, objects with every field in its place, repeated ones included.

What a number or a string means is decided where it is used, since a text
may hold numbers and escapes without a meaning in a part nobody reads.
-/
import RemapSynth.Text.Word
import RemapSynth.Decimal.Scaled

namespace RemapSynth.Json

/-- The digits of a number as written. -/
structure Numeral where
  negative : Bool
  whole : List Char
  /-- The digits after the point; none without a point. -/
  fraction : List Char
  /-- Sign and digits after `e`. -/
  exponent : Option (Bool × List Char)
  deriving Repr, DecidableEq

/-- A piece of a string as written. -/
inductive Piece
  | char (c : Char)
  /-- `\u` and four hexadecimal digits. -/
  | unit (code : Nat)
  deriving Repr, DecidableEq

/-- A JSON text as it is written. -/
inductive Tree
  | null
  | bool (value : Bool)
  | number (value : Numeral)
  | string (pieces : List Piece)
  | array (items : List Tree)
  | object (fields : List (List Piece × Tree))
  deriving Repr

/-- Why a text is no JSON, or no JSON of the wanted shape. -/
inductive Fault
  | endOfValue
  | endOfString
  | endOfArray
  | endOfObject
  | expectedValue
  | expectedIdentifier
  | expectedColon
  | expectedArrayEnd
  | expectedObjectEnd
  | trailingComma
  | trailingText
  | keyNotString
  | badNumber
  | badEscape
  | loneSurrogate
  | controlCharacter
  | outOfRange
  | tooDeep
  | wrongShape
  deriving Repr, DecidableEq

def Fault.message : Fault → String
  | .endOfValue => "EOF while parsing a value"
  | .endOfString => "EOF while parsing a string"
  | .endOfArray => "EOF while parsing a list"
  | .endOfObject => "EOF while parsing an object"
  | .expectedValue => "expected value"
  | .expectedIdentifier => "expected ident"
  | .expectedColon => "expected `:`"
  | .expectedArrayEnd => "expected `,` or `]`"
  | .expectedObjectEnd => "expected `,` or `\x7d`"
  | .trailingComma => "trailing comma"
  | .trailingText => "trailing characters"
  | .keyNotString => "key must be a string"
  | .badNumber => "invalid number"
  | .badEscape => "invalid escape"
  | .loneSurrogate => "lone leading surrogate in hex escape"
  | .controlCharacter =>
    "control character (\\u0000-\\u001F) found while parsing a string"
  | .outOfRange => "number out of range"
  | .tooDeep => "recursion limit exceeded"
  | .wrongShape => "invalid type"

end RemapSynth.Json
