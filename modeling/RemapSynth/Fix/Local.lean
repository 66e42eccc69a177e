/-
Repairing a program without a model. The error message tells the kind of
error; the built-in rules of that kind and the learned ones are applied
line by line, over and over, until nothing changes or four passes are made.

In one pass each line is changed at most once, by the first rule that does
anything to it. Comment lines are never touched.
-/
import RemapSynth.Fix.Seed
import RemapSynth.Fix.Store

namespace RemapSynth.Fix

/-- The first rule that does anything to a line, by name, and what it does. -/
def firstEdit? : List Rule → List Char → Option (String × Edit)
  | [], _ => none
  | rule :: rules, line =>
    match rule.apply line with
    | .unchanged => firstEdit? rules line
    | edit => some (rule.name, edit)

/-- What one pass makes of one line, and the rule that was applied. -/
def passLine (rules : List Rule) (line : List Char) : List (List Char) × List String :=
  if isComment line then ([line], [])
  else
    match firstEdit? rules line with
    | some (name, .replace new) => ([new], [name])
    | some (name, .drop) => ([], [name])
    | some (_, .unchanged) | none => ([line], [])

/-- What one pass makes of a program, and the rules that were applied, in order of lines. -/
def pass (rules : List Rule) (lines : List (List Char)) : List (List Char) × List String :=
  let results := lines.map (passLine rules)
  (results.flatMap (·.1), results.flatMap (·.2))

/-- At most `n` passes, the last of them the first that applies no rule. -/
def passes (rules : List Rule) : Nat → List (List Char) → List (List Char) × List String
  | 0, lines => (lines, [])
  | n + 1, lines =>
    match pass rules lines with
    | (lines, []) => (lines, [])
    | (lines, applied) =>
      let (lines, more) := passes rules n lines
      (lines, applied ++ more)

/-- The number of passes after which a program is taken as it is. -/
def maxPasses : Nat := 4

/-- A program after all passes, and the rules that were applied, in order. -/
def applyRules (rules : List Rule) (code : List Char) : List Char × List String :=
  let (lines, applied) := passes rules maxPasses (Chars.splitAt '\n' code)
  (Chars.joinWith ['\n'] lines, applied)

/-- A repair that changed something. -/
structure LocalFix where
  code : String
  diagnosis : Diagnosis
  applied : List String
  deriving Repr, DecidableEq

/-- What a store knows after reading an error message. -/
def Store.read (s : Store) (message : String) : Store :=
  s.learnAll (Diagnosis.ofMessage message) (lessons (Diagnosis.ofMessage message) message)

/-- All the rules for one kind of error, the built-in ones first. -/
def Store.allRules (s : Store) (d : Diagnosis) : List Rule := seedsFor d ++ s.rulesFor d

/-- The repair of a program with the rules there are; none when the program stays as it is. -/
def repairWith (rules : List Rule) (d : Diagnosis) (code : String) : Option LocalFix :=
  let (fixed, applied) := applyRules rules code.toList
  if applied.isEmpty || fixed == code.toList then none else some ⟨.ofList fixed, d, applied⟩

/-- Learns from an error message, then repairs the program it is about. -/
def Store.repair (s : Store) (code message : String) : Option LocalFix × Store :=
  let d := Diagnosis.ofMessage message
  let s := s.read message
  (repairWith (s.allRules d) d code, s)

end RemapSynth.Fix
