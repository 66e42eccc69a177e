/-
Rules that change one line of a program: what sets a rule off, and what it
does to the line. A rule whose change leaves the line as it was has not
been applied.
-/
import RemapSynth.Pattern
import RemapSynth.Text.Search

namespace RemapSynth.Fix

/-- What sets a rule off. -/
inductive Trigger
  /-- The pattern matches somewhere in the line. -/
  | pattern (pattern : Pattern)
  /-- The text occurs in the line. -/
  | contains (text : String)
  /-- The line, trimmed, is the text. -/
  | line (text : String)

/-- What a rule does to a line. -/
inductive Change
  /-- Replaces the first match of the rule's pattern; a rule set off otherwise does nothing. -/
  | substitute (parts : List Pattern.Part)
  /-- Replaces the first occurrence of `old`. -/
  | replace (old new : String)
  /-- Makes the line a comment, its indentation kept. -/
  | commentOut
  | dropLine
  deriving Repr, DecidableEq

/-- What became of a line. -/
inductive Edit
  | unchanged
  | replace (line : List Char)
  | drop
  deriving Repr, DecidableEq

structure Rule where
  name : String
  trigger : Trigger
  change : Change
  /-- A line that contains one of these is left alone. -/
  guards : List String

/-- Whether a line sets a rule off. -/
def Trigger.fires (trigger : Trigger) (line : List Char) : Bool :=
  match trigger with
  | .pattern p => p.occursIn line
  | .contains text => Chars.contains line text.toList
  | .line text => Chars.trim line == text.toList

/-- A line as a comment: a hash sign and a space before its first character that is no blank. -/
def commented (line : List Char) : List Char :=
  line.takeWhile Text.isBlank ++ ['#', ' '] ++ Chars.trimStart line

/-- Whether a line is a comment already. -/
def isComment (line : List Char) : Bool := (Chars.trimStart line).head? == some '#'

/-- An edit that says so when it changes nothing. -/
def Edit.of (old new : List Char) : Edit := if new = old then .unchanged else .replace new

/-- What a rule makes of a line that sets it off. -/
def Rule.edit (rule : Rule) (line : List Char) : Edit :=
  match rule.change with
  | .substitute parts =>
    match rule.trigger with
    | .pattern p => .of line (p.replaceFirst parts line)
    | .contains _ | .line _ => .unchanged
  | .replace old new => .of line (Chars.replaceFirst old.toList new.toList line)
  | .commentOut => .of line (commented line)
  | .dropLine => .drop

/-- What a rule makes of a line. -/
def Rule.apply (rule : Rule) (line : List Char) : Edit :=
  if rule.guards.any fun guard => Chars.contains line guard.toList then .unchanged
  else if rule.trigger.fires line then rule.edit line
  else .unchanged

end RemapSynth.Fix
