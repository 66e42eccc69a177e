/-
Rehearsals written down as JSON: the samples, settings and scripts that one
is made of. A key that is missing stands for the usual value.
-/
import RemapSynth.Rehearsal.Machine
import RemapSynth.Rehearsal.Stage
import RemapSynth.Settings.Data

namespace RemapSynth.Rehearsal

open Chat Generation

/-- A number of milliseconds. -/
def readMillis (j : Json) (key : String) (usual : Nat) : Duration :=
  .ofMillis ((j.nat? key).getD usual)

/-- Samples, each a line. -/
def readSamples? (j : Json) (key : String) : Option (List Sample) :=
  (j.texts? key).map fun lines => lines.map Sample.ofLine

/-- Samples, each a line; none when the key is missing. -/
def readSamples (j : Json) (key : String) : List Sample := (readSamples? j key).getD []

/-- A usage; the cost goes by either of two names. -/
def readUsage? : Json → Option Usage
  | .obj fields =>
    let j := Json.obj fields
    some
      ⟨j.nat "prompt_tokens", j.nat "completion_tokens", j.nat "total_tokens",
        (j.double? "cost").orElse fun _ => j.double? "total_cost"⟩
  | _ => none

def readStrategy (j : Json) : Strategy := ⟨j.text "name", j.text "description", j.text "approach"⟩

def readStrategy? (j : Json) : Option Strategy := (j.field? "strategy").map readStrategy

/-- The word for a class of failures. -/
def failureName : Failure → String
  | .infrastructure _ => "Infrastructure"
  | .generation _ => "Generation"
  | .configuration _ => "Config"

def readFailure? (j : Json) : Option Failure :=
  let message := j.text "message"
  [Failure.infrastructure message, .generation message, .configuration message].find? fun failure =>
    j.text? "error" == some (failureName failure)

/-- An entry of a script: a failure, or what `read` makes of it. -/
def readEntry {α : Type} (read : Json → α) (j : Json) : Except Failure α :=
  (readFailure? j).elim (.ok (read j)) .error

/-- Entries that decide for the programs that hold their own text. -/
def readCues {α : Type} (read : Json → α) (j : Json) (key : String) :
    List (Cue (Except Failure α)) :=
  (j.items key).map fun entry => ⟨entry.text "contains", readEntry read entry⟩

def readCalibration (j : Json) : Score.Calibration :=
  let c := j.field "calibration"
  .fixed ((c.double? "multiplier").getD 1.0) (readMillis c "startup_ms" 1000)

/-- The reason of a record; a name that nobody knows is kept as a note. -/
def readReason (name : String) : Repair.Reason :=
  let known : List Repair.Reason :=
    [.validated, .generationError, .exhausted, .fixingDisabled, .cycleDetected, .localFix,
      .modelRepair]
  (known.find? (·.name == name)).getD (.noted name)

def readRecord (j : Json) : Repair.Record :=
  ⟨j.nat "n", (j.text? "code").map Diagnosis.ofName, j.flag "fix_applied",
    (j.text? "reason").map readReason⟩

/-- A rule without a pattern. -/
def readRule (j : Json) : Fix.Rule where
  name := (j.text? "name").getD "custom"
  trigger :=
    match (j.field "trigger").text? "line" with
    | some line => .line line
    | none => .contains ((j.field "trigger").text "contains")
  change :=
    match j.field "rewrite" with
    | .str "comment_out" => .commentOut
    | .str "drop_line" => .dropLine
    | .obj fields => .replace ((Json.obj fields).text "from") ((Json.obj fields).text "to")
    | _ => .substitute []
  guards := j.texts "unless"

/-- A measured run; how many events went in may be left open. -/
def readRun (j : Json) : ScriptedRun where
  recordsIn := j.nat? "records_in"
  run :=
    { recordsIn := j.nat "records_in"
      recordsOut := j.nat "records_out"
      elapsed := readMillis j "elapsed_ms" 0
      cpuSamples := j.doubles "cpu"
      memorySamples := j.doubles "mem"
      timedOut := j.flag "timed_out"
      errorText := j.text? "error_text" }

def readCompilation (j : Json) : Engine.Compilation :=
  if j.flag "ok" then .passed else ⟨false, j.text? "error_text", j.flag "timed_out"⟩

def readEngineScript (j : Json) : EngineScript :=
  ⟨readCues readCompilation j "checker", readCues readRun j "runner"⟩

def readVerdict (j : Json) : Verdict :=
  match j.text? "fail" with
  | none => .pass
  | some message =>
    let v := Verdict.fail message
    { v with
      errorMessage := if j.flag "no_message" then none else v.errorMessage
      diagnosis := if j.has "code" then (j.text? "code").map Diagnosis.ofName else v.diagnosis }

/-- A validator: one that follows a script, or one over a scripted engine. -/
def readBench (j : Json) : Bench :=
  if ["outcomes", "fallback", "by_code"].any fun key => (j.field? key).isSome then
    { judge :=
        .scripted (readCues readVerdict j "by_code")
          ⟨(j.items "outcomes").map (readEntry readVerdict),
            (j.field? "fallback").map (readEntry readVerdict)⟩ }
  else
    let table :=
      match j.text? "reserved_csv" with
      | some content => some (Policy.readTable content)
      | none => if j.flag "missing_csv" then some (.error .unreadable) else none
    { judge :=
        .asking
          (.make (.ofJson (j.field "settings")) table (j.field? "checker").isSome
            (j.field? "runner").isSome)
          (readEngineScript j) }

def readGenerated (j : Json) : Generated := ⟨j.text "code", readUsage? (j.field "usage")⟩

def readProviderLine (j : Json) : ProviderLine :=
  match (j.text? "category").bind Category.ofName? with
  | some category => .error ⟨category, j.text "message", j.nat? "retry_after"⟩
  | none => .ok (j.text "text", readUsage? (j.field "usage"))

def readRetryPolicy (j : Json) : RetryPolicy := if j.flag "immediate" then .immediate else {}

/-- A generator over a provider. -/
def readGenerator (settings j : Json) : Generator :=
  ⟨(j.texts? "models").getD ["primary", "fallback"], .ofJson settings, readRetryPolicy j⟩

def readProvider (j : Json) : Provider := { script := (j.items "provider").map readProviderLine }

/-- A generator: one over a scripted provider, or one that follows a script. -/
def readProducer (settings j : Json) : Producer :=
  if (j.items? "provider").isSome then
    .ofProvider (readGenerator settings j) (readProvider j).script
  else
    let g := j.field "generator"
    .ofScript ((g.items "generate").map (readEntry readGenerated))
      ((g.items "repair").map (readEntry readGenerated))
      ((g.field? "default").map (readEntry readGenerated))

def readTask (j : Json) : Task :=
  if j.text "do" == "repair" then
    .repair (j.text "code") (j.text "error") (readSamples? j "samples") (j.text? "context")
  else .generate (readSamples j "samples") (readStrategy? j) (j.text? "baseline")

def readMeasurement (j : Json) : Score.Measurement where
  eventsPerSecond := j.double "eps"
  cpuPercent := j.double "cpu"
  memoryMegabytes := j.double "mem"
  rate := j.double "epc"
  latencyMillis := j.double "p99"
  errorCount := j.nat "errors"
  index := j.nat "index"
  tier := ((j.text? "tier").bind Score.Tier.ofName?).getD .fast
  source := if j.flag "estimate" then .estimate else .engine
  estimatedRate := j.double "estimated"

def readCandidate (j : Json) : Selection.Candidate where
  strategy := readStrategy j
  code := j.text "code"
  isValid := (j.flag? "valid").getD true
  unavailable := j.flag "unavailable"
  records := (j.items "records").map readRecord
  measurement := (j.field? "m").map readMeasurement
  totalCost := j.double "cost"
  iterations := (j.nat? "iterations").getD 1
  lastError := j.text? "last_error"

def readCandidates (j : Json) : List Selection.Candidate := (j.items "candidates").map readCandidate

/-- A scorer; it has an engine when there is a script for one. -/
def readScorer (j : Json) : Score.Scorer :=
  ⟨readCalibration j, .ofJson (j.field "performance"), (j.field? "runner").isSome⟩

def readLoop (j : Json) : Repair.Assignment :=
  ⟨.ofJson (j.field "settings"), readSamples j "samples", readStrategy? j, j.text? "baseline"⟩

def readSelection (j : Json) : Selection.Assignment :=
  ⟨.ofJson (j.field "settings"), (Settings.Performance.ofJson (j.field "performance")).goal,
    (j.items "strategies").map readStrategy, readSamples j "samples", j.text? "baseline"⟩

def readCast (j : Json) : Cast where
  producers := ((j.items "strategies").map (·.text "name")).map fun name =>
    (name, readProducer (j.field "settings") ((j.field "generators").field name))
  stage :=
    { bench := readBench (j.field "validation")
      ledger := ({} : Ledger).record (readUsage? (j.field "spent")) }
  scorer := readScorer j
  engine := readEngineScript j

/-- An engine as a process. -/
def readEngineProgram (j : Json) : EngineProgram where
  stdout := j.text "stdout"
  stderr := j.text "stderr"
  emits := j.nat "emit"
  finish :=
    match j.text "end" with
    | "kill" => .dies
    | "hang" => .hangs
    | _ => .exits
  exitCode := j.nat "exit"

/-- What stands behind the name of an engine. -/
def readEngineBinary (j : Json) : EngineBinary :=
  match j.text? "binary" with
  | none => .program (readEngineProgram j)
  | some "/dev/null" => .notExecutable
  | some _ => .absent

def readReply (j : Json) : ScriptedReply :=
  match j.text? "transport" with
  | some "refused" => ⟨.unreachable, false⟩
  | some "hang" | some "slow_body" => ⟨.timedOut, true⟩
  | some "error" => ⟨.broken (j.text "text"), true⟩
  | some _ => ⟨.broken "", true⟩
  | none => ⟨.answered ((j.nat? "status").getD 200) (j.text "body"), true⟩

def readMessage (j : Json) : Message :=
  match j.text "role" with
  | "system" => .system (j.text "content")
  | "assistant" => .assistant (j.text "content")
  | _ => .user (j.text "content")

def hexValue (c : Char) : Nat :=
  if c.isDigit then c.toNat - 48 else if 97 ≤ c.toNat then c.toNat - 87 else c.toNat - 55

/-- Bytes written in hexadecimal. -/
def readBytes : List Char → List UInt8
  | a :: b :: rest => UInt8.ofNat (hexValue a * 16 + hexValue b) :: readBytes rest
  | _ => []

/-- A file, given as text or as bytes. -/
def readFile? (j : Json) : Option Entry :=
  match j.text? "content", j.text? "content_hex" with
  | some content, _ => some (.text content)
  | none, some hex =>
    some ((String.fromUTF8? ⟨(readBytes hex.toList).toArray⟩).elim .binary .text)
  | none, none => none

/-- A machine with one file, where there is one. -/
def readMachine (path : List String) (j : Json) : Machine :=
  { files := ⟨((readFile? j).map fun entry => (path, entry)).toList⟩ }

end RemapSynth.Rehearsal
