/-
Candidates: what each strategy came to, the table of them all, and which of
them is the best.
-/
import RemapSynth.Repair.Loop
import RemapSynth.Score.Scorer

namespace RemapSynth.Selection

open Chat

/-- What became of one strategy. -/
structure Candidate (Cost : Type := Float) where
  strategy : Strategy
  code : String
  isValid : Bool
  /-- A failure left the candidate without a judgement. -/
  unavailable : Bool
  records : List Repair.Record
  /-- Only of a valid candidate. -/
  measurement : Option Score.Measurement
  totalCost : Cost
  iterations : Nat
  lastError : Option String
  deriving Repr

/-- One row of the table of candidates. -/
structure Row (Cost : Type := Float) where
  strategy : String
  valid : Bool
  unavailable : Bool
  iterations : Nat
  cost : Cost
  index : Option Nat
  rate : Option Float
  tier : Option Score.Tier
  failureReason : Option String
  deriving Repr

/-- The largest reason in a table, in characters. -/
def maxReason : Nat := 300

namespace Candidate

variable {Cost : Type}

/-- The candidate of a repair loop that ended. -/
def ofReport [Zero Cost] (strategy : Strategy) (report : Repair.Report Cost) : Candidate Cost where
  strategy := strategy
  code := report.code
  isValid := report.success
  unavailable := false
  records := report.records
  measurement := none
  totalCost := report.totalCost
  iterations := report.iterations
  lastError := report.lastError

/-- The candidate of a repair loop that failed outright. -/
def ofFailure [Zero Cost] (strategy : Strategy) (failure : Failure) : Candidate Cost where
  strategy := strategy
  code := ""
  isValid := false
  unavailable := true
  records := []
  measurement := none
  totalCost := 0
  iterations := 0
  lastError := some failure.message

/-- What a repair loop came to, as a candidate. -/
def ofResult [Zero Cost] (strategy : Strategy) :
    Except Failure (Repair.Report Cost) → Candidate Cost
  | .ok report => ofReport strategy report
  | .error failure => ofFailure strategy failure

/-- The candidate after it was scored; one that could not be stays valid but is out of the
running. -/
def scored (c : Candidate Cost) : Except Failure Score.Measurement → Candidate Cost
  | .ok measurement => { c with measurement := measurement }
  | .error failure =>
    { c with unavailable := true, measurement := none, lastError := some failure.message }

/-- The row of a candidate. A reason stands only where there is something to explain. -/
def row (c : Candidate Cost) : Row Cost where
  strategy := c.strategy.name
  valid := c.isValid
  unavailable := c.unavailable
  iterations := c.iterations
  cost := c.totalCost
  index := c.measurement.map (·.index)
  rate := c.measurement.map (·.rate)
  tier := c.measurement.map (·.tier)
  failureReason :=
    if !c.isValid || c.unavailable then c.lastError.map (Text.truncate · maxReason) else none

end Candidate

/-- How two numbers compare; what is no number compares equal to anything. -/
def compareBy {α : Type} [LT α] [DecidableLT α] (a b : α) : Ordering :=
  if a < b then .lt else if b < a then .gt else .eq

/-- How two measurements compare under a goal; the greater is the better one. -/
def compareSpeed (goal : Settings.Goal) (a b : Score.Measurement) : Ordering :=
  let byThroughput := compareBy a.eventsPerSecond b.eventsPerSecond
  let byIndex := compare a.index b.index
  match goal with
  | .throughput => byThroughput
  | .cpuEfficiency => byIndex
  | .balanced => byIndex.then byThroughput

variable {Cost : Type} [LT Cost] [DecidableLT Cost]

/-- How two measured candidates compare: by speed, and at equal speed the cheaper is the better. -/
def compareMeasured (goal : Settings.Goal) (a b : Score.Measurement × Cost) : Ordering :=
  (compareSpeed goal a.1 b.1).then (compareBy b.2 a.2)

/-- What a candidate is ranked by; only a valid and measured one is ranked. -/
def Candidate.standing? (c : Candidate Cost) : Option (Score.Measurement × Cost) :=
  if c.isValid then c.measurement.map fun m => (m, c.totalCost) else none

/-- The best of the candidates from place `i` on, when `best` is the best before them: one takes
the place of the best only if it is better. -/
def rankFrom (goal : Settings.Goal) : Nat → Option (Nat × Score.Measurement × Cost) →
    List (Candidate Cost) → Option Nat
  | _, best, [] => best.map (·.1)
  | i, best, c :: candidates =>
    match c.standing?, best with
    | none, best => rankFrom goal (i + 1) best candidates
    | some s, none => rankFrom goal (i + 1) (some (i, s)) candidates
    | some s, some (j, t) =>
      rankFrom goal (i + 1)
        (some (if compareMeasured goal s t = .gt then (i, s) else (j, t))) candidates

/-- The place of the best candidate; of equally good ones the first. -/
def rank (goal : Settings.Goal) (candidates : List (Candidate Cost)) : Option Nat :=
  rankFrom goal 0 none candidates

end RemapSynth.Selection
