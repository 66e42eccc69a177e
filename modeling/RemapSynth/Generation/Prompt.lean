/-
What a model is told and asked, and how a program is taken from its answer.
-/
import RemapSynth.Generation.Strategy
import RemapSynth.Sample
import RemapSynth.Text.Cut

namespace RemapSynth.Prompt

/-- The instruction that opens every conversation. -/
def instruction : String :=
  "You write Vector Remap Language (VRL) programs that parse raw log events.\n\nRules:\n" ++
    "- Extract only data that is visible in the event. Never invent fields such as device types " ++
    "or severities that the log does not carry.\n" ++
    "- Never use regex functions (parse_regex, parse_regex_all, match, match_array, to_regex). " ++
    "Use contains, split, starts_with, ends_with, slice, upcase and downcase.\n" ++
    "- Add `?? <fallback>` only to fallible calls. Infallible calls with a fallback do not " ++
    "compile.\n" ++
    "- Guard fallible predicates: `if (contains(s, \"x\") ?? false) \x7b ... \x7d`.\n" ++
    "- Never use `abort` or `return`.\n" ++
    "- Convert the message once: `msg = to_string(.message) ?? \"\"` and work on `msg`.\n\n" ++
    "Answer with the complete program in one ```vrl fenced block and nothing else."

/-- How much of the samples a model is shown to write a program, in bytes. -/
def generationBudget : Nat := 6000

/-- How much of the samples a model is shown to repair a program, in bytes. -/
def repairBudget : Nat := 2000

/-- How much of the samples a model is shown to plan strategies, in bytes. -/
def planBudget : Nat := 3000

/-- The largest error text in a prompt, in characters. -/
def maxErrorText : Nat := 3000

/-- A text that is there and is not blank. -/
def notBlank (s : Option String) : Option String := s.filter fun s => !Text.isBlankText s

/-- The part of a prompt that names the strategy. -/
def strategyPart (s : Option Strategy) : String :=
  s.elim "" fun s =>
    s!"Strategy: {s.name} ({s.description})\nApproach: {s.approach}\n\n"

/-- The part of a prompt that shows a program known to work. -/
def baselinePart (baseline : Option String) : String :=
  (notBlank baseline).elim "" fun code =>
    "This program already works on similar data. Keep its field names where they apply:\n" ++
      "```vrl\n" ++ Text.trim code ++ "\n```\n\n"

def generation (samples : List Sample) (strategy : Option Strategy) (baseline : Option String) :
    String :=
  "Write a VRL program that parses these events. Each line is one event as JSON; " ++
    "the raw log line is in .message.\n\n" ++
    Sample.render samples generationBudget ++ "\n\n" ++ strategyPart strategy ++
    baselinePart baseline ++ "Return only the program in a ```vrl fenced block."

/-- The part of a prompt that tells what was tried before. -/
def contextPart (context : Option String) : String :=
  (notBlank context).elim "" fun context => "Repair history:\n" ++ Text.trim context ++ "\n\n"

def samplePart (samples : List Sample) : String :=
  if samples.isEmpty then ""
  else "Sample events:\n" ++ Sample.render samples repairBudget ++ "\n\n"

def repair (code message : String) (samples : Option (List Sample)) (context : Option String) :
    String :=
  "This VRL program fails validation.\n\nError:\n" ++
    Text.truncate (Text.trim message) maxErrorText ++ "\n\nProgram:\n```vrl\n" ++
    Text.trim code ++ "\n```\n\n" ++ contextPart context ++ samplePart (samples.getD []) ++
    "Fix this error without reintroducing earlier ones. " ++
    "Return the complete corrected program in a ```vrl fenced block."

def plan (samples : List Sample) (count : Nat) : String :=
  "Propose " ++ Nat.repr count ++
    " different ways to write a fast VRL parser for these events. " ++
    "Regex functions are not allowed.\n\n" ++ Sample.render samples planBudget ++
    "\n\nAnswer with a JSON array of objects with the keys \"name\" (snake_case), " ++
    "\"description\" and \"approach\". No other text."

/-- The mark around a block of code. -/
def fence : List Char := "```".toList

/-- The mark that opens a block of a remap program. -/
def programFence : List Char := "```vrl".toList

/-- A program as an answer holds it. -/
def fenced (code : String) : String := "```vrl\n" ++ code ++ "\n```"

/-- What follows the first opening of a block; a block of a remap program comes before any
other. -/
def afterFence? (s : List Char) : Option (List Char) :=
  match Chars.breakOn programFence s with
  | some (before, _) => some (s.drop (before.length + 3))
  | none => (Chars.breakOn fence s).map (·.2)

/-- The content of the first block: from the line after its opening to the next mark, or to the end
of a text that has none. -/
def block? (s : List Char) : Option (List Char) :=
  match afterFence? s with
  | none => none
  | some rest =>
    match rest.dropWhile (· ≠ '\n') with
    | [] => none
    | _ :: body =>
      match Chars.breakOn fence body with
      | some (body, _) => some body
      | none => some body

/-- The program in an answer: its first block, or all of an answer without blocks; none when
nothing is left. -/
def programChars? (answer : List Char) : Option (List Char) :=
  let trimmed := Chars.trim answer
  let body := if Chars.contains trimmed fence then block? trimmed else some trimmed
  (body.map Chars.trim).filter fun code => !code.isEmpty

def program? (answer : String) : Option String := (programChars? answer.toList).map String.ofList

end RemapSynth.Prompt
