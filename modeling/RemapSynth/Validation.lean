/-
Validating a program, cheapest check first: reserved fields, rejected
functions, compiling, and a run on a few samples. The first check that
fails decides; a check that is switched off passes.
-/
import RemapSynth.Engine.Ask
import RemapSynth.Policy.Check
import RemapSynth.Settings.Basic

namespace RemapSynth

/-- The verdict on a program. -/
structure Verdict where
  passed : Bool
  errorMessage : Option String
  diagnosis : Option Diagnosis
  deriving Repr, DecidableEq

/-- The verdict on a program without fault. -/
def Verdict.pass : Verdict := ⟨true, none, none⟩

/-- The verdict on a program with a fault; the message tells its kind. -/
def Verdict.fail (message : String) : Verdict := ⟨false, some message, some (.ofMessage message)⟩

/-- The message of a verdict; empty without a fault. -/
def Verdict.message (v : Verdict) : String := v.errorMessage.getD ""

/-- The kind of failure of a verdict that did not pass. -/
def Verdict.kind (v : Verdict) : Diagnosis := v.diagnosis.getD .unknown

/-- A validator: its settings, the policy made of them, and what part of the engine there is. -/
structure Validator where
  settings : Settings.Validation
  policy : Policy
  canCompile : Bool
  canRun : Bool

namespace Validator

open Engine

/-- A validator. Reserved fields from a table come after the configured ones; a table that could
not be read adds none. -/
def make (settings : Settings.Validation) (table : Option (Except Policy.ListFault (List String)))
    (canCompile canRun : Bool) : Validator where
  settings := settings
  policy :=
    .ofLists settings.rejectedFunctions settings.preferredFunctions
      (settings.reservedFields ++
        match table with
        | some (.ok names) => names
        | some (.error _) | none => [])
  canCompile := canCompile
  canRun := canRun

/-- The verdict on writing reserved fields. -/
def conflictVerdict? (v : Validator) (code : String) : Option Verdict :=
  if !v.settings.fieldConflictCheck || v.policy.reserved.isEmpty then none
  else
    let conflicts := v.policy.findConflicts code
    if conflicts.isEmpty then none
    else some (.fail (Policy.conflictMessage (conflicts.map Policy.Conflict.message)))

/-- The verdict on calling rejected functions. -/
def rejectionVerdict? (v : Validator) (code : String) : Option Verdict :=
  if !v.settings.rejectedConstructCheck then none
  else
    let found := v.policy.findRejected code
    if found.isEmpty then none else some (.fail (v.policy.rejectionMessage found))

/-- The verdict on what compiling came to. -/
def compileVerdict? (c : Compilation) : Option Verdict :=
  if c.ok then none
  else
    let text := c.errorText.getD ""
    some (.fail
      (if c.timedOut then Diagnosis.timeoutStart ++ " " ++ text
      else Diagnosis.compileStart ++ " " ++ firstErrorLine text))

/-- The verdict on what a run came to. -/
def runVerdict? (v : Validator) (o : RunOutput) : Option Verdict :=
  match o.errorText with
  | some text => some (.fail (Diagnosis.runStart ++ " " ++ text))
  | none =>
    if o.recordsOut = 0 then
      some (.fail
        (if o.timedOut then
          Diagnosis.timeoutStart ++ " engine produced no events within " ++
            Nat.repr v.settings.timeout.seconds ++ "s"
        else Diagnosis.runStart ++ " engine processed 0 events"))
    else none

/-- The samples that a run is given: the first few, at least one. -/
def runSamples (v : Validator) (samples : List Sample) : List Sample :=
  samples.take (max v.settings.sampleLimit 1)

/-- The last check: a run on samples, when there are any. -/
def checkRun (v : Validator) (code : String) (samples : Option (List Sample)) :
    Dialogue Ask Answer (Except Failure Verdict) :=
  let samples := samples.getD []
  if !v.canRun || !v.settings.runnerEnabled || samples.isEmpty then .done (.ok .pass)
  else
    .ask (.execute code (v.runSamples samples)) fun answer =>
      match answer with
      | .error failure => .done (.error failure)
      | .ok output => .done (.ok ((v.runVerdict? output).getD .pass))

/-- The last two checks: compiling, then a run. -/
def checkEngine (v : Validator) (code : String) (samples : Option (List Sample)) :
    Dialogue Ask Answer (Except Failure Verdict) :=
  if !v.canCompile || !v.settings.checkerEnabled then v.checkRun code samples
  else
    .ask (.compile code) fun answer =>
      match answer with
      | .error failure => .done (.error failure)
      | .ok compilation =>
        match compileVerdict? compilation with
        | some verdict => .done (.ok verdict)
        | none => v.checkRun code samples

def validate (v : Validator) (code : String) (samples : Option (List Sample)) :
    Dialogue Ask Answer (Except Failure Verdict) :=
  match v.conflictVerdict? code with
  | some verdict => .done (.ok verdict)
  | none =>
    match v.rejectionVerdict? code with
    | some verdict => .done (.ok verdict)
    | none => v.checkEngine code samples

end Validator
end RemapSynth
