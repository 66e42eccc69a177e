/-
The repair loop of one candidate: a program is generated, validated, and as
long as it fails and iterations are left, changed. A failure that keeps
coming back leads to a simpler program; else the built-in and learned rules
are tried, and at last the model is asked for a repair.
-/
import RemapSynth.Generation.Session
import RemapSynth.Repair.Record
import RemapSynth.Fix.Local
import RemapSynth.Validation

namespace RemapSynth.Repair

open Chat Generation

/-- What a repair loop asks of others. -/
inductive Ask (Cost : Type)
  /-- A program, from a generator. -/
  | produce (task : Task)
  /-- A verdict, from a validator. -/
  | validate (code : String) (samples : List Sample)
  /-- A program changed by rules, from the shared store. -/
  | fix (code message : String)
  /-- A usage to be noted in the shared ledger. -/
  | record (usage : Option (Usage Cost))

/-- The answers to what a repair loop asks. -/
abbrev Answer (Cost : Type) : Ask Cost → Type
  | .produce _ => Except Failure (Generated Cost)
  | .validate _ _ => Except Failure Verdict
  | .fix _ _ => Option String
  | .record _ => Unit

/-- What a repair loop came to. -/
structure Report (Cost : Type := Float) where
  /-- The last program that was validated; empty when there was none. -/
  code : String
  success : Bool
  iterations : Nat
  records : List Record
  failedPatterns : List String
  lastError : Option String
  lastDiagnosis : Option Diagnosis
  usage : Option (Usage Cost)
  deriving Repr

variable {Cost : Type}

def Report.totalCost [Zero Cost] (r : Report Cost) : Cost := Usage.costOf r.usage

/-- What a repair loop is given. -/
structure Assignment where
  settings : Settings.Generation
  samples : List Sample
  strategy : Option Strategy
  baseline : Option String

/-- How many iterations a loop may have. -/
def Assignment.budget (a : Assignment) : Nat := max a.settings.maxIterations 1

/-- The task of generating the first program. -/
def Assignment.first (a : Assignment) : Task := .generate a.samples a.strategy a.baseline

/-- The task of generating a simpler program. -/
def Assignment.simpler (a : Assignment) : Task := .generate a.samples (some .simplify) none

/-- What the next iteration starts from. -/
inductive Pending
  | code (code : String)
  /-- A simpler program is to be generated first. -/
  | simplify
  deriving Repr, DecidableEq

/-- What a loop has noted so far. -/
structure Notes (Cost : Type) where
  detector : CycleDetector
  records : List Record := []
  failedPatterns : List String := []
  lastCode : String := ""
  lastError : Option String := none
  lastDiagnosis : Option Diagnosis := none
  usage : Option (Usage Cost) := none

namespace Notes

/-- The notes with a record added. -/
def add (n : Notes Cost) (number : Nat) (d : Option Diagnosis) (fixApplied : Bool)
    (reason : Reason) : Notes Cost :=
  { n with records := n.records ++ [⟨number, d, fixApplied, some reason⟩] }

/-- The notes with the usage of a program added. -/
def spend [Add Cost] (n : Notes Cost) (usage : Option (Usage Cost)) : Notes Cost :=
  { n with usage := Usage.merge n.usage usage }

/-- The notes once a program has passed. -/
def accept (n : Notes Cost) (code : String) : Notes Cost := { n with lastCode := code }

/-- The notes once a program has not passed. -/
def reject (n : Notes Cost) (code : String) (v : Verdict) : Notes Cost :=
  { n with lastCode := code, lastError := some v.message, lastDiagnosis := some v.kind }

/-- The notes with one more failure seen by the detector. -/
def watch (n : Notes Cost) (d : Diagnosis) : Notes Cost :=
  { n with detector := (n.detector.observe d).2 }

/-- The notes with the constructs added that a failure is about. -/
def learn (n : Notes Cost) (v : Verdict) : Notes Cost :=
  { n with failedPatterns := addNew n.failedPatterns (Repair.failedPatterns v.message v.kind) }

/-- The notes once no simpler program could be generated. -/
def miss (n : Notes Cost) (failure : Failure) : Notes Cost :=
  { n with lastError := some failure.message, lastDiagnosis := none }

/-- The report of a loop that found a valid program in iteration `number`. -/
def succeeded (n : Notes Cost) (number : Nat) : Report Cost :=
  ⟨n.lastCode, true, number, n.records, n.failedPatterns, none, none, n.usage⟩

/-- The report of a loop that found none. -/
def failed (n : Notes Cost) : Report Cost :=
  ⟨n.lastCode, false, n.records.length, n.records, n.failedPatterns, n.lastError,
    n.lastDiagnosis, n.usage⟩

end Notes

/-- How an iteration leaves a loop. -/
inductive Step (Cost : Type)
  | abort (failure : Failure)
  | stop (report : Report Cost)
  | next (pending : Pending) (notes : Notes Cost)

/-- A dialogue of a repair loop. -/
abbrev Course (Cost α : Type) : Type := Dialogue (Ask Cost) (Answer Cost) α

variable [Add Cost]

/-- Asks for a program and goes on with `done`, its usage noted, or with `unusable`; a fatal
failure ends the loop. -/
def produce {α : Type} (task : Task) (notes : Notes Cost) (abort : Failure → α)
    (unusable : Failure → α) (done : String → Notes Cost → Course Cost α) : Course Cost α :=
  .ask (.produce task) fun answer =>
    match answer with
    | .ok generated =>
      .ask (.record generated.usage) fun _ => done generated.code (notes.spend generated.usage)
    | .error failure => .done (if failure.isFatal then abort failure else unusable failure)

/-- What follows a failure for which no rule does anything: the model is asked for a repair. -/
def askRepair (a : Assignment) (number : Nat) (code : String) (v : Verdict) (notes : Notes Cost) :
    Course Cost (Step Cost) :=
  produce
    (.repair code v.message (some a.samples) (some (context notes.records notes.failedPatterns)))
    notes .abort
    (fun _ => .next .simplify (notes.add number (some v.kind) false .generationError))
    fun code notes => .done (.next (.code code) (notes.add number (some v.kind) true .modelRepair))

/-- What follows a program that is not valid. A failure that closes a cycle has its constructs
noted, and a simpler program is asked for. -/
def afterFailure (a : Assignment) (number : Nat) (isLast : Bool) (code : String) (v : Verdict)
    (notes : Notes Cost) : Course Cost (Step Cost) :=
  if isLast then .done (.stop (notes.add number (some v.kind) false .exhausted).failed)
  else if !a.settings.fixOnFailure then
    .done (.stop (notes.add number (some v.kind) false .fixingDisabled).failed)
  else if (notes.detector.observe v.kind).1 then
    .done (.next .simplify
      (((notes.watch v.kind).learn v).add number (some v.kind) false .cycleDetected))
  else
    .ask (.fix code v.message) fun fixed =>
      match fixed with
      | some code =>
        .done (.next (.code code) ((notes.watch v.kind).add number (some v.kind) true .localFix))
      | none => askRepair a number code v (notes.watch v.kind)

/-- The part of an iteration that has a program: it is validated. -/
def judge (a : Assignment) (number : Nat) (isLast : Bool) (code : String) (notes : Notes Cost) :
    Course Cost (Step Cost) :=
  .ask (.validate code a.samples) fun answer =>
    match answer with
    | .error failure => .done (.abort failure)
    | .ok v =>
      if v.passed then
        .done (.stop (((notes.accept code).add number none false .validated).succeeded number))
      else afterFailure a number isLast code v (notes.reject code v)

def iterate (a : Assignment) (number : Nat) (isLast : Bool) (pending : Pending)
    (notes : Notes Cost) : Course Cost (Step Cost) :=
  match pending with
  | .code code => judge a number isLast code notes
  | .simplify =>
    produce a.simpler notes .abort
      (fun failure =>
        .next .simplify ((notes.miss failure).add number none false .generationError))
      (judge a number isLast)

/-- What follows a step: nothing, or `goOn`. -/
def Step.andThen (step : Step Cost)
    (goOn : Pending → Notes Cost → Course Cost (Except Failure (Report Cost))) :
    Course Cost (Except Failure (Report Cost)) :=
  match step with
  | .abort failure => .done (.error failure)
  | .stop report => .done (.ok report)
  | .next pending notes => goOn pending notes

/-- The iterations from `number` on, `left` of them after the first. -/
def iterations (a : Assignment) : (left number : Nat) → Pending → Notes Cost →
    Course Cost (Except Failure (Report Cost))
  | 0, number, pending, notes =>
    (iterate a number true pending notes).bind fun step =>
      step.andThen fun _ notes => .done (.ok notes.failed)
  | left + 1, number, pending, notes =>
    (iterate a number false pending notes).bind fun step =>
      step.andThen fun pending notes => iterations a left (number + 1) pending notes

/-- The notes of a loop that has not begun. -/
def Assignment.notes (a : Assignment) : Notes Cost :=
  { detector := .new a.settings.cycleWindow }

/-- The first program of a loop; without one that can be used, the first iteration asks for a
simpler one. -/
def seed (a : Assignment) : Course Cost (Step Cost) :=
  produce a.first a.notes .abort
    (fun failure => .next .simplify { a.notes with lastError := some failure.message })
    fun code notes => .done (.next (.code code) notes)

/-- A repair loop: one first program, then iterations until a program is valid or none are left. -/
def run (a : Assignment) : Course Cost (Except Failure (Report Cost)) :=
  (seed a).bind fun step => step.andThen (iterations a (a.budget - 1) 1)

end RemapSynth.Repair
