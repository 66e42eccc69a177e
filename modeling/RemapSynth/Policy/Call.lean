/-
Calls of a function by name: the name at a word boundary, an optional
exclamation mark, blanks, and an opening parenthesis.
-/
import RemapSynth.Policy.Comment
import RemapSynth.Text.Search
import RemapSynth.Text.Word

namespace RemapSynth.Policy

/-- Whether arguments open behind a name. -/
def opensArguments (rest : List Char) : Bool :=
  let rest :=
    match rest with
    | '!' :: rest => rest
    | rest => rest
  (Chars.trimStart rest).head? == some '('

/-- Whether a call of `name` begins at the front of `s`, which stands behind `previous`. -/
def callHere (name : List Char) (previous : Option Char) (s : List Char) : Bool :=
  Text.isWordBoundary previous s.head? &&
    match Chars.afterStart? name s with
    | some rest => opensArguments rest
    | none => false

/-- Whether a call of `name` begins anywhere in `s`, which stands behind `previous`. -/
def callsFrom (name : List Char) (previous : Option Char) : List Char → Bool
  | [] => false
  | c :: s => callHere name previous (c :: s) || callsFrom name (some c) s

/-- Whether a line calls `name`. -/
def callsOn (name line : List Char) : Bool := callsFrom name none line

/-- Whether a program calls `name` outside its comments. -/
def callsIn (name program : List Char) : Bool := (codeLines program).any (callsOn name)

end RemapSynth.Policy
