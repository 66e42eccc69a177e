/-
Comments. A hash sign begins one, unless it stands inside a literal: a
string in double quotes, or a raw, string or timestamp literal `r'..'`,
`s'..'` or `t'..'`. A backslash inside a literal takes the meaning off the
character behind it.
-/
import RemapSynth.Text.Line

namespace RemapSynth.Policy

/-- Where in a line a character stands. -/
inductive Context
  /-- Outside literals, behind the given character. -/
  | code (previous : Option Char)
  /-- Inside a literal that ends at `close`, behind a backslash or not. -/
  | literal (close : Char) (escaped : Bool)
  deriving Repr, DecidableEq

/-- The letters that make a single quote behind them open a literal. -/
def isLiteralLetter (c : Option Char) : Bool := c == some 'r' || c == some 's' || c == some 't'

/-- The context behind a character, apart from a hash sign in code. -/
def Context.after : Context → Char → Context
  | .code previous, c =>
    if c = '"' then .literal '"' false
    else if c = '\'' ∧ isLiteralLetter previous then .literal '\'' false
    else .code (some c)
  | .literal close escaped, c =>
    if c = '\\' then .literal close !escaped
    else if c = close ∧ !escaped then .code (some c)
    else .literal close false

/-- Whether a comment begins with a character in this context. -/
def Context.commentAt : Context → Char → Bool
  | .code _, c => c == '#'
  | .literal _ _, _ => false

/-- The rest of a line up to its comment, read in a context. -/
def stripFrom (context : Context) : List Char → List Char
  | [] => []
  | c :: s => if context.commentAt c then [] else c :: stripFrom (context.after c) s

/-- A line without its comment. -/
def stripComment (line : List Char) : List Char := stripFrom (.code none) line

/-- The lines of a program without their comments. -/
def codeLines (program : List Char) : List (List Char) := (Chars.lines program).map stripComment

end RemapSynth.Policy
