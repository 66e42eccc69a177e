/-
Scoring a valid program: a measured run on a batch of events, or, without
an engine, the estimate in its place; and measuring the machine first.
-/
import RemapSynth.Engine.Ask
import RemapSynth.Score.Measurement
import RemapSynth.Settings.Basic

namespace RemapSynth.Score

open Engine (Ask Answer)

/-- A scorer: the constants of the machine, its settings, and whether there is an engine. -/
structure Scorer where
  calibration : Calibration
  settings : Settings.Performance
  canRun : Bool

namespace Scorer

/-- The events of a measured run: the samples again and again until the batch is full. -/
def batch (s : Scorer) (samples : List Sample) : List Sample :=
  Sample.batch samples (max s.settings.batchSize 1)

/-- What a measured run says about a program, with its estimate beside it. -/
def ofRun (s : Scorer) (e : Estimate) (run : MeasuredRun) : Measurement :=
  { Measurement.ofRun run s.calibration s.settings.breakpoints with estimatedRate := e.rate }

def score (s : Scorer) (code : String) (samples : List Sample) :
    Dialogue Ask Answer (Except Failure Measurement) :=
  let e := estimate code s.settings.breakpoints
  if !s.canRun then .done (.ok (.ofEstimate e s.calibration))
  else if samples.isEmpty then .done (.error (.configuration "cannot score without samples"))
  else
    .ask (.measure code (s.batch samples) s.settings.timeout) fun answer =>
      match answer with
      | .error failure => .done (.error failure)
      | .ok run => .done (.ok (s.ofRun e run))

end Scorer

/-- The program that hands every event on as it is. -/
def emptyProgram : String := "."

/-- The time an engine takes to start, told by a run of the program that does nothing. -/
def startupOf (answer : Except Failure Engine.RunOutput) : Duration :=
  match answer with
  | .ok output =>
    if output.errorText.isNone && !output.timedOut then output.elapsed.max leastStartup
    else assumedStartup
  | .error _ => assumedStartup

/-- The constants of a machine that does `rate` operations a second. -/
def Calibration.measure (rate baseline : Float) (canRun : Bool) : Dialogue Ask Answer Calibration :=
  let multiplier := multiplierFor rate baseline
  if canRun then
    .ask (.execute emptyProgram [Sample.ofMessage "startup"]) fun answer =>
      .done ⟨multiplier, startupOf answer⟩
  else .done ⟨multiplier, assumedStartup⟩

end RemapSynth.Score
