/-
An engine that follows a script, and a log of what it was asked.
-/
import RemapSynth.Engine.Ask
import RemapSynth.Rehearsal.Script

namespace RemapSynth.Rehearsal

open Engine (Ask Answer Compilation RunOutput)
open Score (MeasuredRun)

/-- A run as a script has it; without a number of events that went in, all samples did. -/
structure ScriptedRun where
  recordsIn : Option Nat := none
  run : MeasuredRun
  deriving Repr

/-- The answers of an engine by what the program holds. A program without a cue compiles, and every
event it is given comes out. -/
structure EngineScript where
  compile : List (Cue (Except Failure Compilation)) := []
  run : List (Cue (Except Failure ScriptedRun)) := []

/-- A call of an engine to run a program. -/
structure RunCall where
  code : String
  samples : List Sample
  /-- Only of a measured run. -/
  budget : Option Duration

/-- What an engine was asked. -/
structure EngineLog where
  compiled : List String := []
  runs : List RunCall := []

/-- The run of a program on samples. -/
def EngineScript.runOf (s : EngineScript) (code : String) (samples : List Sample) :
    Except Failure MeasuredRun :=
  match cueFor? s.run code with
  | some (.error failure) => .error failure
  | some (.ok r) => .ok { r.run with recordsIn := r.recordsIn.getD samples.length }
  | none => .ok { recordsIn := samples.length, recordsOut := samples.length }

/-- The answer of an engine, and its log after it. -/
def EngineScript.answer (s : EngineScript) : (q : Ask) → EngineLog → Answer q × EngineLog
  | .compile code, log =>
    ((cueFor? s.compile code).getD (.ok .passed), { log with compiled := log.compiled ++ [code] })
  | .execute code samples, log =>
    ((s.runOf code samples).map RunOutput.ofMeasured,
      { log with runs := log.runs ++ [⟨code, samples, none⟩] })
  | .measure code samples budget, log =>
    (s.runOf code samples, { log with runs := log.runs ++ [⟨code, samples, some budget⟩] })

end RemapSynth.Rehearsal
