/-
A whole selection: a repair loop for each strategy, then each valid program
scored, then the best of them chosen. A loop or a scoring that fails puts
its candidate out of the running and leaves the others as they are.
-/
import RemapSynth.Selection.Report

namespace RemapSynth.Selection

open Chat

/-- What a selection asks of others. -/
inductive Ask (Cost : Type)
  /-- A question of the repair loop of the strategy at place `place`. -/
  | loop (place : Nat) (question : Repair.Ask Cost)
  | score (code : String) (samples : List Sample)
  /-- The cost of everything in the shared ledger. -/
  | spent

/-- The answers to what a selection asks. -/
abbrev Answer (Cost : Type) : Ask Cost → Type
  | .loop _ question => Repair.Answer Cost question
  | .score _ _ => Except Failure Score.Measurement
  | .spent => Cost

/-- What a selection is given. -/
structure Assignment where
  generation : Settings.Generation
  goal : Settings.Goal
  strategies : List Strategy
  samples : List Sample
  baseline : Option String

/-- The repair loop of one strategy. -/
def Assignment.loop (a : Assignment) (strategy : Strategy) : Repair.Assignment :=
  ⟨a.generation, a.samples, some strategy, a.baseline⟩

variable {Cost : Type}

/-- A dialogue of a selection. -/
abbrev Course (Cost α : Type) : Type := Dialogue (Ask Cost) (Answer Cost) α

/-- The candidates of strategies, the first of them at place `place`, one loop after another. -/
def runLoops [Add Cost] [Zero Cost] (a : Assignment) : (place : Nat) → List Strategy →
    Course Cost (List (Candidate Cost))
  | _, [] => .done []
  | place, strategy :: strategies =>
    ((Repair.run (a.loop strategy)).via (.loop place) fun _ answer => answer).bind fun result =>
      (runLoops a (place + 1) strategies).map (.ofResult strategy result :: ·)

/-- The candidates with every valid one scored, one after another. -/
def scoreValid (samples : List Sample) :
    List (Candidate Cost) → Course Cost (List (Candidate Cost))
  | [] => .done []
  | c :: candidates =>
    if c.isValid then
      .ask (.score c.code samples) fun result =>
        (scoreValid samples candidates).map (c.scored result :: ·)
    else (scoreValid samples candidates).map (c :: ·)

def outcome [LT Cost] [DecidableLT Cost] (goal : Settings.Goal) (candidates : List (Candidate Cost))
    (totalCost : Cost) : Outcome Cost where
  winner := (rank goal candidates).bind fun i => candidates[i]?
  rows := candidates.map Candidate.row
  totalCost := totalCost

/-- What follows once every loop has ended: the valid candidates are scored, and then the best of
them is chosen. -/
def conclude [LT Cost] [DecidableLT Cost] (a : Assignment) (candidates : List (Candidate Cost)) :
    Course Cost (Except Failure (Outcome Cost)) :=
  (scoreValid a.samples candidates).bind fun candidates =>
    .ask .spent fun totalCost => .done (.ok (outcome a.goal candidates totalCost))

/-- Why a selection cannot even begin: there is nothing to generate from. -/
def Assignment.fault? (a : Assignment) : Option Failure :=
  if a.samples.isEmpty then some (.configuration "no samples to generate from") else none

/-- A whole selection. Nothing is asked when there are no samples. -/
def run [Add Cost] [Zero Cost] [LT Cost] [DecidableLT Cost] (a : Assignment) :
    Course Cost (Except Failure (Outcome Cost)) :=
  match a.fault? with
  | some failure => .done (.error failure)
  | none => (runLoops a 0 a.strategies).bind (conclude a)

end RemapSynth.Selection
