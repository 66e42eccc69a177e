/-
Writing JSON values: in one line without spaces, or indented by two spaces
a level. Only quotes, backslashes and control characters are escaped, so no
written value holds a line feed of its own.
-/
import RemapSynth.Json.Value
import RemapSynth.Decimal.Layout

namespace RemapSynth.Json

/-- The lower-case hexadecimal digit of a number below sixteen. -/
def hexChar (n : Nat) : Char := if n < 10 then .ofNat (48 + n) else .ofNat (87 + n)

/-- One character inside a string. -/
def escape (c : Char) : List Char :=
  match c with
  | '"' => ['\\', '"']
  | '\\' => ['\\', '\\']
  | '\x08' => ['\\', 'b']
  | '\x0c' => ['\\', 'f']
  | '\n' => ['\\', 'n']
  | '\r' => ['\\', 'r']
  | '\t' => ['\\', 't']
  | c =>
    if c.toNat < 32 then ['\\', 'u', '0', '0', hexChar (c.toNat / 16), hexChar (c.toNat % 16)]
    else [c]

/-- A text in quotes. -/
def quote (s : String) : String := .ofList ('"' :: s.toList.flatMap escape ++ ['"'])

def writeInt (n : Int) : String := toString n

mutual

/-- A value in one line. -/
def write : Json → String
  | .null => "null"
  | .bool true => "true"
  | .bool false => "false"
  | .int n => writeInt n
  | .float x => Decimal.Layout.json.float x
  | .str s => quote s
  | .arr items => "[" ++ writeItems items ++ "]"
  | .obj fields => "\x7b" ++ writeFields fields ++ "\x7d"

def writeItems : List Json → String
  | [] => ""
  | [item] => write item
  | item :: items => write item ++ "," ++ writeItems items

def writeFields : List (String × Json) → String
  | [] => ""
  | [(key, value)] => quote key ++ ":" ++ write value
  | (key, value) :: fields => quote key ++ ":" ++ write value ++ "," ++ writeFields fields

end

/-- A line break and `level` steps of indentation. -/
def newLine (level : Nat) : String := "\n" ++ .ofList (List.replicate (2 * level) ' ')

mutual

/-- A value over several lines, inside `level` open containers. -/
def prettyAt (level : Nat) : Json → String
  | .arr items =>
    if items.isEmpty then "[]"
    else "[" ++ newLine (level + 1) ++ prettyItems (level + 1) items ++ newLine level ++ "]"
  | .obj fields =>
    if fields.isEmpty then "\x7b\x7d"
    else
      "\x7b" ++ newLine (level + 1) ++ prettyFields (level + 1) fields ++ newLine level ++ "\x7d"
  | .null => "null"
  | .bool true => "true"
  | .bool false => "false"
  | .int n => writeInt n
  | .float x => Decimal.Layout.json.float x
  | .str s => quote s

/-- The items of an array, one a line. -/
def prettyItems (level : Nat) : List Json → String
  | [] => ""
  | [item] => prettyAt level item
  | item :: items => prettyAt level item ++ "," ++ newLine level ++ prettyItems level items

/-- The fields of an object, one a line. -/
def prettyFields (level : Nat) : List (String × Json) → String
  | [] => ""
  | [(key, value)] => quote key ++ ": " ++ prettyAt level value
  | (key, value) :: fields =>
    quote key ++ ": " ++ prettyAt level value ++ "," ++ newLine level ++
      prettyFields level fields

end

def pretty (value : Json) : String := prettyAt 0 value

end RemapSynth.Json
