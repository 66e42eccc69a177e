/-
The record of a repair loop: a line for each iteration, the detector of
failures that keep coming back, and what is told to the model about both.
-/
import RemapSynth.Diagnosis
import RemapSynth.Text.Cut
import RemapSynth.Text.Snippet

namespace RemapSynth.Repair

/-- How an iteration ended. -/
inductive Reason
  | validated
  /-- No program could be generated. -/
  | generationError
  /-- It was the last iteration. -/
  | exhausted
  /-- Programs are not to be repaired. -/
  | fixingDisabled
  | cycleDetected
  | localFix
  | modelRepair
  | noted (text : String)
  deriving Repr, DecidableEq

def Reason.name : Reason → String
  | validated => "validated"
  | generationError => "generation_error"
  | exhausted => "exhausted"
  | fixingDisabled => "fixing_disabled"
  | cycleDetected => "cycle_detected"
  | localFix => "local_fix"
  | modelRepair => "llm_repair"
  | noted text => text

structure Record where
  number : Nat
  /-- The kind of failure; none when the program was valid, or when there was none. -/
  diagnosis : Option Diagnosis
  /-- Whether the program was changed. -/
  fixApplied : Bool
  reason : Option Reason
  deriving Repr, DecidableEq

/-- Watches the kinds of the most recent failures. -/
structure CycleDetector where
  /-- How many equal kinds in a row make a cycle. -/
  window : Nat
  /-- The kinds seen last, newest first, as many as the window holds. -/
  recent : List Diagnosis := []
  deriving Repr, DecidableEq

namespace CycleDetector

/-- A detector that has seen nothing; its window holds one kind at the least. -/
def new (window : Nat) : CycleDetector := { window := max window 1 }

def push (d : CycleDetector) (kind : Diagnosis) : CycleDetector :=
  { d with recent := (kind :: d.recent).take d.window }

/-- Whether the window is full and holds nothing but `kind`. -/
def isCycle (d : CycleDetector) (kind : Diagnosis) : Bool :=
  d.recent.length == d.window && d.recent.all (· == kind)

/-- Takes note of a failure and says whether it closes a cycle. -/
def observe (d : CycleDetector) (kind : Diagnosis) : Bool × CycleDetector :=
  let d := d.push kind
  (d.isCycle kind, d)

end CycleDetector

/-- New items at the end of a list, none of them twice. -/
def addNew (known : List String) (new : List String) : List String :=
  new.foldl (fun known item => if known.contains item then known else known ++ [item]) known

/-- The snippets between backticks on one line, trimmed. -/
def quotedSnippets (message : List Char) : List String :=
  ((Chars.snippets (fun c => c ≠ Chars.backtick ∧ c ≠ '\n') message).map Chars.trim).filterMap
    fun snippet => if snippet.isEmpty then none else some (.ofList snippet)

/-- The largest piece of an error line that is noted, in characters. -/
def maxNote : Nat := 160

/-- The first line that is not blank, as a note; without any, that there is none. -/
def firstLineNote (message : List Char) (d : Diagnosis) : String :=
  let line :=
    ((Chars.lines message).find? fun line => !Chars.isBlank line).getD "no error text".toList
  d.name ++ ": " ++ .ofList (Chars.truncate (Chars.trim line) maxNote)

/-- What a failure says about constructs that do not work: the program lines it shows, then the
snippets it quotes; where there is neither, its kind and first line. -/
def failedPatterns (message : String) (d : Diagnosis) : List String :=
  let shown := (Chars.quotedLines message.toList).map String.ofList
  let patterns := addNew shown (quotedSnippets message.toList)
  if patterns.isEmpty then [firstLineNote message.toList d] else patterns

/-- How many records a model is told of. -/
def contextRecords : Nat := 3

/-- How many failed constructs a model is told of. -/
def contextPatterns : Nat := 5

def last {α : Type} (n : Nat) (xs : List α) : List α := xs.drop (xs.length - n)

/-- One line on an iteration. -/
def Record.line (r : Record) : String :=
  "- Iteration " ++ Nat.repr r.number ++ ": " ++ r.diagnosis.elim "no error code" Diagnosis.name ++
    " (" ++ r.reason.elim "unknown" Reason.name ++ (if r.fixApplied then ", fix applied" else "") ++
    ")\n"

/-- The kind that every one of at least two records has. -/
def repeating? (recent : List Record) : Option Diagnosis :=
  match recent with
  | ⟨_, some d, _, _⟩ :: more =>
    if !more.isEmpty && more.all (·.diagnosis == some d) then some d else none
  | _ => none

/-- The lines under a heading; nothing at all without lines. -/
def headed (heading : String) (lines : List String) : String :=
  if lines.isEmpty then "" else heading ++ String.join lines

/-- What a model is told of the iterations before. -/
def context (records : List Record) (patterns : List String) : String :=
  if records.isEmpty && patterns.isEmpty then "First iteration attempt."
  else
    let recent := last contextRecords records
    headed "Recent attempts:\n" (recent.map Record.line) ++
      headed "Patterns that already failed; do not use them again:\n"
        ((last contextPatterns patterns).map fun p => "- " ++ p ++ "\n") ++
      (repeating? recent).elim "" (fun d =>
        "Warning: " ++ d.name ++
          " keeps repeating. Change the approach instead of patching the same construct.\n") ++
      "Generate different solution than previous attempts."

end RemapSynth.Repair
