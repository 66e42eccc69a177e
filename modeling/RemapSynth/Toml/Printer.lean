/-
Writing TOML: sections of `key = value` lines, arrays of two or more items
one item a line. A string is written in the plainest form that needs no
escapes, if there is one.
-/
import RemapSynth.Toml.Value
import RemapSynth.Decimal.Layout
import RemapSynth.Json.Printer

namespace RemapSynth.Toml

/-- The length of the longest run of `c`. -/
def longestRun (c : Char) (s : List Char) : Nat :=
  let step := fun (state : Nat × Nat) (d : Char) =>
    let run := if d = c then state.1 + 1 else 0
    (run, max state.2 run)
  (s.foldl step (0, 0)).2

/-- A control character that no string holds as itself. -/
def needsCode (c : Char) : Bool :=
  (c.toNat < 32 && c != '\t' && c != '\n') || c.toNat == 127

/-- The upper-case hexadecimal digit of a number below sixteen. -/
def upperHex (n : Nat) : Char := if n < 10 then .ofNat (48 + n) else .ofNat (55 + n)

/-- A string between double quotes, `quotes` of which may follow each other unescaped; line feeds
stand as they are where the string may run over several lines. -/
def escaped (overLines : Bool) (quotes : Nat) : Nat → List Char → List Char
  | _, [] => []
  | run, c :: s =>
    if c = '"' then
      if quotes ≤ run then '\\' :: '"' :: escaped overLines quotes 0 s
      else '"' :: escaped overLines quotes (run + 1) s
    else
      let text :=
        match c with
        | '\x08' => ['\\', 'b']
        | '\t' => ['\\', 't']
        | '\n' => if overLines then ['\n'] else ['\\', 'n']
        | '\x0c' => ['\\', 'f']
        | '\r' => ['\\', 'r']
        | '\\' => ['\\', '\\']
        | c =>
          if needsCode c then
            ['\\', 'u', '0', '0', upperHex (c.toNat / 16), upperHex (c.toNat % 16)]
          else [c]
      text ++ escaped overLines quotes 0 s

def basic (s : List Char) : List Char := '"' :: escaped false 0 0 s ++ ['"']

/-- A line feed before a body that holds one, so that the body begins on a line of its own. -/
def leadIn (s : List Char) : List Char := if s.contains '\n' then ['\n'] else []

/-- A string in triple double quotes. -/
def basicBlock (s : List Char) : List Char :=
  ['"', '"', '"'] ++ leadIn s ++ escaped true 2 0 s ++ ['"', '"', '"']

/-- A string in triple single quotes. -/
def literalBlock (s : List Char) : List Char :=
  ['\'', '\'', '\''] ++ leadIn s ++ s ++ ['\'', '\'', '\'']

/-- A string: in double quotes when nothing has to be escaped, else in single quotes, else in the
triple ones, else with escapes. -/
def quote (text : String) : String :=
  let s := text.toList
  let codes := s.any needsCode
  let slash := s.contains '\\'
  let broken := s.contains '\n'
  let doubles := longestRun '"' s
  let singles := longestRun '\'' s
  .ofList
    (if !codes && !slash && doubles = 0 && !broken then basic s
    else if !codes && singles = 0 && !broken then '\'' :: s ++ ['\'']
    else if !codes && !slash && doubles ≤ 2 then basicBlock s
    else if !codes && singles ≤ 2 then literalBlock s
    else if broken then basicBlock s
    else basic s)

/-- A value on the right of an equals sign. Only plain values and arrays of strings stand there
in what this program writes; a table inside a value is left empty. -/
def write : Toml → String
  | .str s => quote s
  | .int n => Json.writeInt n
  | .float x => Decimal.Layout.toml.float x
  | .bool b => if b then "true" else "false"
  | .moment text => text
  | .arr items =>
    let texts := items.map fun item =>
      match item with
      | .str s => quote s
      | _ => ""
    match texts with
    | [] => "[]"
    | [text] => "[" ++ text ++ "]"
    | texts => "[\n" ++ String.join (texts.map fun text => "    " ++ text ++ ",\n") ++ "]"
  | .table _ => "\x7b\x7d"

/-- The lines of a section. -/
def writeEntries (entries : List (String × Toml)) : String :=
  String.join (entries.map fun (key, value) => key ++ " = " ++ write value ++ "\n")

/-- A document of sections, a blank line between any two. -/
def writeSections (sections : List (String × List (String × Toml))) : String :=
  "\n".intercalate
    (sections.map fun (name, entries) => "[" ++ name ++ "]\n" ++ writeEntries entries)

end RemapSynth.Toml
