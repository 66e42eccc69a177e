/-
An engine as a process that follows a script: what it prints, how many
events come out of it, and how it ends.
-/
import RemapSynth.Engine.Ask
import RemapSynth.Engine.Watch

namespace RemapSynth.Rehearsal

open Engine

/-- How a scripted engine ends. -/
inductive Finish
  | exits
  /-- It kills itself. -/
  | dies
  /-- It sleeps for a while and then exits. -/
  | hangs
  deriving Repr, DecidableEq

/-- A scripted engine. It prints everything, and writes all its events, at once. -/
structure EngineProgram where
  stdout : String := ""
  stderr : String := ""
  emits : Nat := 0
  finish : Finish := .exits
  exitCode : Nat := 0
  deriving Repr

/-- What stands behind the name of an engine. -/
inductive EngineBinary
  | absent
  /-- Something that cannot be run. -/
  | notExecutable
  | program (p : EngineProgram)

/-- How long a scripted engine sleeps. -/
def sleepTime : Duration := .ofSeconds 5

/-- The signal that ends a process at once. -/
def killSignal : Nat := 9

/-- Why something cannot be run. -/
def notPermitted : String := "Permission denied (os error 13)"

/-- What is left of an engine that was to compile a program within `timeout`. -/
def EngineProgram.output (p : EngineProgram) (timeout : Duration) : Output :=
  let left := fun ending timedOut => (⟨some ending, p.stdout, p.stderr, timedOut⟩ : Output)
  match p.finish with
  | .exits => left (.exited p.exitCode) false
  | .dies => left (.signaled killSignal) false
  | .hangs =>
    if timeout.nanos ≤ sleepTime.nanos then left (.signaled killSignal) true
    else left (.exited p.exitCode) false

/-- The ending of a scripted engine by a time after its start. -/
def EngineProgram.endingBy? (p : EngineProgram) (time : Duration) : Option Ending :=
  match p.finish with
  | .exits => some (.exited p.exitCode)
  | .dies => some (.signaled killSignal)
  | .hangs => if time.nanos ≤ sleepTime.nanos then none else some (.exited p.exitCode)

/-- A look at a scripted engine. At the very start it has done nothing yet. -/
def EngineProgram.lookAt (p : EngineProgram) (time : Duration) : Look :=
  if time.nanos = 0 then ⟨time, none, 0⟩ else ⟨time, p.endingBy? time, p.emits⟩

/-- The times at which an engine is looked at, until after every scripted one has ended. -/
def lookTimes : List Duration :=
  (List.range (sleepTime.nanos / pollInterval.nanos + 2)).map pollInterval.times

/-- What is seen of an engine that is to run a program on `expected` events within `budget`. -/
def EngineProgram.observe (p : EngineProgram) (expected : Nat) (budget : Duration) : Observation :=
  let halt := (Watch.run expected budget).follow .start (lookTimes.map p.lookAt)
  .ofHalt (halt.getD .outOfTime) ⟨p.stdout, p.stderr, p.emits, .zero, [], []⟩

/-- What comes of starting an engine. -/
def EngineBinary.start {α : Type} (b : EngineBinary) (result : EngineProgram → α) : Started α :=
  match b with
  | .absent => .missing
  | .notExecutable => .refused notPermitted
  | .program p => .ran (result p)

/-- Compiling a program with an engine. -/
def EngineBinary.compile (b : EngineBinary) (name : String) (timeout : Duration) :
    Except Failure Compilation :=
  Compilation.ofStarted name timeout (b.start (·.output timeout))

/-- Running a program on samples with an engine; without samples none is started. -/
def EngineBinary.measure (b : EngineBinary) (name : String) (samples : List Sample)
    (budget : Duration) : Except Failure Score.MeasuredRun :=
  if samples.isEmpty then .ok emptyRun
  else
    measuredOfStarted name samples.length (b.start (·.observe samples.length budget))

/-- The answer of an engine to any question; `timeout` is for the runs that are not measured. -/
def EngineBinary.answer (b : EngineBinary) (name : String) (timeout : Duration) :
    (q : Ask) → Answer q
  | .compile _ => b.compile name timeout
  | .execute _ samples => (b.measure name samples timeout).map RunOutput.ofMeasured
  | .measure _ samples budget => b.measure name samples budget

/-- The launch of an engine for a question; none when it answers without one. -/
def launchFor? (name : String) : Ask → Option Launch
  | .compile code => some (compileLaunch name code)
  | .execute code samples | .measure code samples _ =>
    if samples.isEmpty then none else some (runLaunch name code samples)

end RemapSynth.Rehearsal
