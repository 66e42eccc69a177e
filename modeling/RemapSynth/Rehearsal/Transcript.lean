/-
What happened in a rehearsal, as JSON: what was asked of whom, and what
everything came to.
-/
import RemapSynth.Rehearsal.Reading
import RemapSynth.Selection.Report

namespace RemapSynth.Rehearsal

open Chat Generation

/-- A usage that may be missing. -/
def usageJson (u : Option Usage) : Json :=
  .ofOption
    (fun u => .obj
      [("prompt_tokens", .ofNat u.promptTokens), ("completion_tokens", .ofNat u.completionTokens),
        ("total_tokens", .ofNat u.totalTokens), ("cost", .ofOption .ofDouble u.cost)]) u

/-- The fields that describe a kind of failure. -/
def diagnosisFields (d : Diagnosis) : List (String × Json) :=
  [("code", .str d.name), ("number", .ofOption .ofNat d.number?),
    ("description", .str d.description), ("json", .str d.name)]

def failureJson (e : Failure) : Json :=
  .obj [("error", .str (failureName e)), ("message", .str e.message)]

/-- A failure, or what `write` makes of a result. -/
def resultJson {α : Type} (write : α → Json) : Except Failure α → Json
  | .ok a => write a
  | .error failure => failureJson failure

def verdictJson (v : Verdict) : Json :=
  .obj
    [("passed", .bool v.passed), ("error_message", .ofText? v.errorMessage),
      ("error_code", .ofText? (v.diagnosis.map Diagnosis.name)), ("message", .str v.message)]

def triggerJson : Fix.Trigger → Json
  | .pattern _ => .str "pattern"
  | .contains s => .obj [("contains", .str s)]
  | .line s => .obj [("line", .str s)]

def changeJson : Fix.Change → Json
  | .substitute _ => .str "substitute"
  | .replace old new => .obj [("from", .str old), ("to", .str new)]
  | .commentOut => .str "comment_out"
  | .dropLine => .str "drop_line"

def ruleFields (r : Fix.Rule) : List (String × Json) :=
  [("name", .str r.name), ("trigger", triggerJson r.trigger), ("rewrite", changeJson r.change),
    ("unless", .ofTexts r.guards)]

def rulesJson (rules : List Fix.Rule) : Json := .ofList (fun r => .obj (ruleFields r)) rules

def editJson : Fix.Edit → Json
  | .unchanged => .str "unchanged"
  | .drop => .str "drop"
  | .replace line => .obj [("replace", .str (.ofList line))]

def fixJson (f : Fix.LocalFix) : Json :=
  .obj
    [("code", .str f.code), ("error_code", .str f.diagnosis.name),
      ("rules_applied", .ofTexts f.applied)]

/-- What a store learned under one kind of failure. -/
def lessonsJson (lessons : List Fix.Lesson) : Json :=
  .ofList (fun l => .obj (("construct", .str l.construct) :: ruleFields l.rule)) lessons

def storeJson (s : Fix.Store) : Json :=
  .obj
    [("len", .ofNat s.size), ("empty", .bool (s.size == 0)),
      ("patterns", .obj ((s.learned.map (·.diagnosis)).eraseDups.map fun d =>
        (d.name, lessonsJson (s.lessonsFor d))))]

/-- A measurement, every number of it told. -/
def measurementJson (m : Score.Measurement) : Json :=
  .obj
    [("events_per_second", .ofDouble m.eventsPerSecond), ("cpu_percent", .ofDouble m.cpuPercent),
      ("memory_mb", .ofDouble m.memoryMegabytes), ("events_per_cpu_percent", .ofDouble m.rate),
      ("p99_latency_ms", .ofDouble m.latencyMillis), ("error_count", .ofNat m.errorCount),
      ("performance_index", .ofNat m.index), ("tier", .str m.tier.name),
      ("source", .str m.source.name),
      ("estimated_events_per_cpu_percent", .ofDouble m.estimatedRate)]

def calibrationJson (c : Score.Calibration) : Json :=
  .obj
    [("cpu_multiplier", .ofDouble c.multiplier), ("engine_startup", .ofDouble c.startup.toFloat)]

/-- A run that an engine was asked for. -/
def runCallJson (c : RunCall) : Json :=
  .obj
    ([("mode", .str (if c.budget.isSome then "measure" else "execute")), ("code", .str c.code),
      ("samples", .ofNat c.samples.length),
      ("last", .ofText? (c.samples.getLast?.map Sample.line))] ++
      (c.budget.map fun b => ("budget_ms", .ofNat b.millis)).toList)

/-- The runs that an engine was asked for, when there is an engine. -/
def runsJson (canRun : Bool) (log : EngineLog) : Json :=
  if canRun then .ofList runCallJson log.runs else .null

/-- What a validator has seen. -/
def benchJson (b : Bench) : Json :=
  let seen := fun validator checker runner =>
    Json.obj [("validator", validator), ("checker", checker), ("runner", runner)]
  match b.judge with
  | .scripted _ _ => seen (.ofTexts b.codes) .null .null
  | .asking v _ =>
    seen .null (if v.canCompile then .ofTexts b.log.compiled else .null) (runsJson v.canRun b.log)

def errorJson (e : Error) : Json :=
  .obj
    [("error", .str e.category.name), ("message", .str e.message),
      ("retry_after_secs", .ofOption .ofNat e.retryAfter), ("display", .str e.text)]

/-- A message; the instruction of all conversations is not spelled out. -/
def messageJson (m : Message) : Json :=
  .obj
    [("role", .str m.role.name),
      ("content", .str (if m.content == Prompt.instruction then "<SYSTEM_PROMPT>" else m.content))]

def requestJson (r : Request) : Json :=
  .obj
    [("model", .str r.model), ("messages", .ofList messageJson r.messages),
      ("max_tokens", .ofNat r.maxTokens),
      ("temperature", .str (Decimal.Layout.plain.float32 r.temperature))]

def taskJson : Task → Json
  | .generate samples strategy baseline =>
    .obj
      [("call", .str "generate"), ("samples", .ofNat samples.length),
        ("strategy", .ofText? (strategy.map (·.name))), ("baseline", .ofText? baseline)]
  | .repair code message samples context =>
    .obj
      [("call", .str "repair"), ("code", .str code), ("error", .str message),
        ("samples", .ofOption (fun s => .ofNat s.length) samples), ("context", .ofText? context)]

/-- What a generator was asked, or asked itself. -/
def callsJson : Producer → Json
  | .scripted _ _ calls => .ofList taskJson calls
  | .asking _ _ provider => .ofList requestJson provider.requests

def summaryJson (s : Summary) : Json :=
  .obj
    [("iterations", .ofNat s.iterations), ("usage", usageJson s.usage),
      ("total_cost", .ofDouble s.totalCost), ("conversation_messages", .ofNat s.messages),
      ("error_codes_seen", .ofTexts (s.diagnoses.map Diagnosis.name))]

def reportJson (r : Repair.Report Float) : Json :=
  .obj
    [("code", .str r.code), ("success", .bool r.success), ("iterations", .ofNat r.iterations),
      ("records", .ofList Selection.recordJson r.records),
      ("failed_patterns", .ofTexts r.failedPatterns), ("last_error", .ofText? r.lastError),
      ("last_error_code", .ofText? (r.lastDiagnosis.map Diagnosis.name)),
      ("usage", usageJson r.usage), ("total_cost", .ofDouble r.totalCost)]

def outcomeJson (o : Selection.Outcome) : Json :=
  .obj
    [("winner", .ofOption Selection.candidateJson o.winner),
      ("candidates", .ofList Selection.rowJson o.rows),
      ("total_cost", Selection.jsonFloat o.totalCost)]

/-- What the generators of a selection were asked, by strategy. -/
def castCallsJson (cast : Cast) : Json :=
  .ofList (fun (name, p) => .obj [("strategy", .str name), ("calls", callsJson p)]) cast.producers

/-- A file that an engine was given. -/
def launchFile? (l : Engine.Launch) (name : String) : Option String :=
  (l.files.find? (·.1 == name)).map (·.2)

/-- What an engine was started with; null where it was not started. -/
def launchJson (binary : EngineBinary) (launch : Option Engine.Launch) : Json :=
  let started :=
    match binary with
    | .program _ => launch
    | .absent | .notExecutable => none
  let file := fun name => started.bind fun l => launchFile? l name
  .obj
    [("args", .ofOption (fun l => .ofTexts l.arguments) started),
      ("program", .ofText? (file "program.vrl")),
      ("input", .ofText? ((file "input.json").orElse fun _ => file "input.jsonl")),
      ("config", ((file "pipeline.json").bind Json.parse?).getD .null)]

/-- A request that reached a provider. -/
def sentJson (client : Client) (body : String) : Json :=
  .obj
    [("target", .str ("POST " ++ (Client.path? client.url).getD "")),
      ("authorization", .str client.authorization), ("content_type", .str "application/json"),
      ("body", (Json.parse? body).getD .null)]

/-- What is left of a process. -/
def outputFields (o : Engine.Output) : List (String × Json) :=
  [("success", .bool o.succeeded), ("combined", .str o.combined)]

end RemapSynth.Rehearsal
