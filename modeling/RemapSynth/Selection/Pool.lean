/-
A selection whose repair loops are at work side by side. Every strategy has a
job. A job begins once a worker is free and all jobs before it have begun;
then its loop is given one answer after another, and when it ends its worker
is free again. Which job goes on at any moment is left open, and so is every
answer; only the ledger is the one that all loops share. Once the last loop
has ended, the candidates are scored one at a time.
-/
import RemapSynth.Selection.Run

namespace RemapSynth.Selection

open Chat

variable {Cost : Type}

/-- Where the job of one strategy stands. -/
inductive Job (Cost : Type)
  | waiting (strategy : Strategy)
  /-- A worker runs the loop, of which this is left. -/
  | running (course : Repair.Course Cost (Except Failure (Repair.Report Cost)))
  | ended (result : Except Failure (Repair.Report Cost))

namespace Job

def isWaiting : Job Cost → Bool
  | waiting _ => true
  | _ => false

/-- Whether the job keeps a worker busy. -/
def isRunning : Job Cost → Bool
  | running _ => true
  | _ => false

def isEnded : Job Cost → Bool
  | ended _ => true
  | _ => false

end Job

/-- How far a selection is. -/
inductive Stage (Cost : Type)
  /-- Not every loop has ended. -/
  | looping
  /-- No loop is left; this is still to be asked. -/
  | concluding (course : Course Cost (Except Failure (Outcome Cost)))
  /-- The answer to a question is awaited. -/
  | awaiting (question : Ask Cost)
      (next : Answer Cost question → Course Cost (Except Failure (Outcome Cost)))

/-- A selection at one moment. -/
structure State (Cost : Type) where
  /-- How many workers have no job. -/
  free : Nat
  jobs : List (Job Cost)
  /-- What all loops have spent so far. -/
  ledger : Ledger Cost
  stage : Stage Cost

namespace State

/-- A selection that has not begun. There is one worker at the least; without samples there is
nothing to begin with. -/
def opening (a : Assignment) (workers : Nat) (ledger : Ledger Cost) : State Cost where
  free := max workers 1
  jobs := a.strategies.map .waiting
  ledger := ledger
  stage :=
    match a.fault? with
    | some failure => .concluding (.done (.error failure))
    | none => .looping

/-- What a selection has come to, once nothing is left to ask. -/
def result? (s : State Cost) : Option (Except Failure (Outcome Cost)) :=
  match s.stage with
  | .concluding (.done result) => some result
  | _ => none

end State

/-- What happens in a selection. -/
inductive Event (Cost : Type)
  /-- The loop at a place begins, with a generator that is made for it and for this strategy. -/
  | begun (place : Nat) (strategy : Strategy)
  /-- The loop at a place has asked a question and is given the answer. -/
  | called (place : Nat) (call : Dialogue.Exchange (Repair.Ask Cost) (Repair.Answer Cost))
  | ended (place : Nat)
  /-- All loops have been waited for. -/
  | joined
  /-- The selection itself asks a question. -/
  | asked (question : Ask Cost)
  | answered (call : Dialogue.Exchange (Ask Cost) (Answer Cost))

/-- The ledger once a repair loop has asked a question. -/
def ledgerAfter [Add Cost] (ledger : Ledger Cost) : Repair.Ask Cost → Ledger Cost
  | .record usage => ledger.record usage
  | _ => ledger

/-- Whether an answer to a selection is true of the ledger. -/
def IsTrue [Zero Cost] (ledger : Ledger Cost) : (question : Ask Cost) → Answer Cost question → Prop
  | .spent, cost => cost = ledger.totalCost
  | _, _ => True

variable [Add Cost] [Zero Cost] [LT Cost] [DecidableLT Cost]

/-- One thing happens. -/
inductive Step (a : Assignment) : State Cost → Event Cost → State Cost → Prop
  | begun {free jobs ledger place strategy} (hjob : jobs[place]? = some (.waiting strategy))
      (hbefore : ∀ job ∈ jobs.take place, job.isWaiting = false) :
    Step a ⟨free + 1, jobs, ledger, .looping⟩ (.begun place strategy)
      ⟨free, jobs.set place (.running (Repair.run (a.loop strategy))), ledger, .looping⟩
  | called {free jobs ledger place question next} (reply : Repair.Answer Cost question)
      (hjob : jobs[place]? = some (.running (.ask question next))) :
    Step a ⟨free, jobs, ledger, .looping⟩ (.called place ⟨question, reply⟩)
      ⟨free, jobs.set place (.running (next reply)), ledgerAfter ledger question, .looping⟩
  | ended {free jobs ledger place result} (hjob : jobs[place]? = some (.running (.done result))) :
    Step a ⟨free, jobs, ledger, .looping⟩ (.ended place)
      ⟨free + 1, jobs.set place (.ended result), ledger, .looping⟩
  | joined {free jobs ledger results} (hjobs : jobs = results.map .ended) :
    Step a ⟨free, jobs, ledger, .looping⟩ .joined
      ⟨free, jobs, ledger,
        .concluding (conclude a (List.zipWith Candidate.ofResult a.strategies results))⟩
  | asked {free jobs ledger question next} :
    Step a ⟨free, jobs, ledger, .concluding (.ask question next)⟩ (.asked question)
      ⟨free, jobs, ledger, .awaiting question next⟩
  | answered {free jobs ledger question next} (reply : Answer Cost question)
      (htrue : IsTrue ledger question reply) :
    Step a ⟨free, jobs, ledger, .awaiting question next⟩ (.answered ⟨question, reply⟩)
      ⟨free, jobs, ledger, .concluding (next reply)⟩

/-- `Run a s events s'`: one after another, `events` take a selection from `s` to `s'`. -/
inductive Run (a : Assignment) : State Cost → List (Event Cost) → State Cost → Prop
  | nil {s} : Run a s [] s
  | cons {s event s' events s''} (h : Step a s event s') (more : Run a s' events s'') :
    Run a s (event :: events) s''

end RemapSynth.Selection
