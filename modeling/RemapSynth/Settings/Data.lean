/-
Settings as JSON data: read from objects in which every key may be missing,
and written with all their keys.
-/
import RemapSynth.Settings.Basic
import RemapSynth.Json.Field
import RemapSynth.Decimal.Layout

namespace RemapSynth

def Score.Breakpoints.ofJson (j : Json) : Score.Breakpoints :=
  let usual : Score.Breakpoints := {}
  { top := (j.double? "top").getD usual.top
    exceptional := (j.double? "exceptional").getD usual.exceptional
    fast := (j.double? "fast").getD usual.fast
    moderate := (j.double? "moderate").getD usual.moderate
    slow := (j.double? "slow").getD usual.slow
    verySlow := (j.double? "very_slow").getD usual.verySlow }

def Score.Breakpoints.toJson (b : Score.Breakpoints) : Json :=
  .obj
    [("top", .ofDouble b.top), ("exceptional", .ofDouble b.exceptional), ("fast", .ofDouble b.fast),
      ("moderate", .ofDouble b.moderate), ("slow", .ofDouble b.slow),
      ("very_slow", .ofDouble b.verySlow)]

namespace Settings

/-- A single-precision number by its shortest digits. -/
def jsonSingle (x : Float32) : Json := .ofDouble (Decimal.doubleOf x)

def Generation.ofJson (j : Json) : Generation :=
  let usual : Generation := {}
  { maxIterations := (j.nat? "max_iterations").getD usual.maxIterations
    cycleWindow := (j.nat? "cycle_window").getD usual.cycleWindow
    fixOnFailure := (j.flag? "fix_on_failure").getD usual.fixOnFailure
    generationTemperature :=
      (j.single? "generation_temperature").getD usual.generationTemperature
    repairTemperature := (j.single? "repair_temperature").getD usual.repairTemperature
    maxTokens := (j.nat? "max_tokens").getD usual.maxTokens
    candidateCount := (j.nat? "candidate_count").getD usual.candidateCount
    historyTurns := (j.nat? "history_turns").getD usual.historyTurns }

def Generation.toJson (g : Generation) : Json :=
  .obj
    [("max_iterations", .ofNat g.maxIterations), ("cycle_window", .ofNat g.cycleWindow),
      ("fix_on_failure", .bool g.fixOnFailure),
      ("generation_temperature", jsonSingle g.generationTemperature),
      ("repair_temperature", jsonSingle g.repairTemperature), ("max_tokens", .ofNat g.maxTokens),
      ("candidate_count", .ofNat g.candidateCount), ("history_turns", .ofNat g.historyTurns)]

def Validation.ofJson (j : Json) : Validation :=
  let usual : Validation := {}
  { checkerEnabled := (j.flag? "checker_enabled").getD usual.checkerEnabled
    runnerEnabled := (j.flag? "runner_enabled").getD usual.runnerEnabled
    rejectedConstructCheck :=
      (j.flag? "rejected_construct_check").getD usual.rejectedConstructCheck
    fieldConflictCheck := (j.flag? "field_conflict_check").getD usual.fieldConflictCheck
    timeoutSeconds := (j.nat? "timeout_secs").getD usual.timeoutSeconds
    sampleLimit := (j.nat? "sample_limit").getD usual.sampleLimit
    rejectedFunctions := (j.texts? "rejected_functions").getD usual.rejectedFunctions
    preferredFunctions := (j.texts? "preferred_functions").getD usual.preferredFunctions
    reservedFields := (j.texts? "reserved_fields").getD usual.reservedFields
    reservedFieldsTable := j.text? "reserved_fields_csv"
    engineBinary := (j.text? "vector_binary").getD usual.engineBinary }

def Validation.toJson (v : Validation) : Json :=
  .obj
    [("checker_enabled", .bool v.checkerEnabled), ("runner_enabled", .bool v.runnerEnabled),
      ("rejected_construct_check", .bool v.rejectedConstructCheck),
      ("field_conflict_check", .bool v.fieldConflictCheck),
      ("timeout_secs", .ofNat v.timeoutSeconds), ("sample_limit", .ofNat v.sampleLimit),
      ("rejected_functions", .ofTexts v.rejectedFunctions),
      ("preferred_functions", .ofTexts v.preferredFunctions),
      ("reserved_fields", .ofTexts v.reservedFields),
      ("reserved_fields_csv", .ofText? v.reservedFieldsTable),
      ("vector_binary", .str v.engineBinary)]

def Performance.ofJson (j : Json) : Performance :=
  let usual : Performance := {}
  { batchSize := (j.nat? "batch_size").getD usual.batchSize
    measurementTimeoutSeconds :=
      (j.nat? "measurement_timeout_secs").getD usual.measurementTimeoutSeconds
    sampleIntervalMillis := (j.nat? "sample_interval_ms").getD usual.sampleIntervalMillis
    baselineRate := (j.double? "baseline_ops_per_sec").getD usual.baselineRate
    benchmarkIterations := (j.nat? "benchmark_iterations").getD usual.benchmarkIterations
    costThreshold := (j.double? "cost_threshold").getD usual.costThreshold
    goal := ((j.text? "optimize_for").bind Goal.ofName?).getD usual.goal
    breakpoints := .ofJson (j.field "tier_breakpoints") }

def Performance.toJson (p : Performance) : Json :=
  .obj
    [("batch_size", .ofNat p.batchSize),
      ("measurement_timeout_secs", .ofNat p.measurementTimeoutSeconds),
      ("sample_interval_ms", .ofNat p.sampleIntervalMillis),
      ("baseline_ops_per_sec", .ofDouble p.baselineRate),
      ("benchmark_iterations", .ofNat p.benchmarkIterations),
      ("cost_threshold", .ofDouble p.costThreshold), ("optimize_for", .str p.goal.name),
      ("tier_breakpoints", p.breakpoints.toJson)]

def Provider.ofJson (j : Json) : Provider :=
  let usual : Provider := {}
  { baseUrl := (j.text? "base_url").getD usual.baseUrl
    keyVariable := (j.text? "api_key_env").getD usual.keyVariable
    models := (j.texts? "models").getD usual.models
    requestTimeoutSeconds := (j.nat? "request_timeout_secs").getD usual.requestTimeoutSeconds }

def Provider.toJson (m : Provider) : Json :=
  .obj
    [("base_url", .str m.baseUrl), ("api_key_env", .str m.keyVariable),
      ("models", .ofTexts m.models), ("request_timeout_secs", .ofNat m.requestTimeoutSeconds)]

def Concurrency.ofJson (j : Json) : Concurrency :=
  let usual : Concurrency := {}
  ⟨j.nat? "max_workers", (j.nat? "worker_cap").getD usual.workerCap⟩

def Concurrency.toJson (c : Concurrency) : Json :=
  .obj [("max_workers", .ofOption .ofNat c.maxWorkers), ("worker_cap", .ofNat c.workerCap)]

/-- The number of workers when it is the same on every machine. -/
def Concurrency.fixedWorkers? (c : Concurrency) : Option Nat :=
  if c.maxWorkers.isNone && 1 < c.workerCap then none else some (c.workers 1)

def Logging.ofJson (j : Json) : Logging :=
  let usual : Logging := {}
  ⟨(j.text? "level").getD usual.level, (j.flag? "json").getD usual.json⟩

def Logging.toJson (l : Logging) : Json :=
  .obj [("level", .str l.level), ("json", .bool l.json)]

def ofJson (j : Json) : Settings where
  generation := .ofJson (j.field "generation")
  validation := .ofJson (j.field "validation")
  performance := .ofJson (j.field "performance")
  provider := .ofJson (j.field "llm")
  concurrency := .ofJson (j.field "concurrency")
  logging := .ofJson (j.field "logging")

/-- The times and the number of workers that follow from settings. -/
def derivedJson (s : Settings) : Json :=
  .obj
    [("validation_timeout_secs", .ofNat s.validation.timeout.seconds),
      ("measurement_timeout_secs", .ofNat s.performance.timeout.seconds),
      ("sample_interval_ms", .ofNat s.performance.sampleInterval.millis),
      ("worker_count", .ofOption .ofNat s.concurrency.fixedWorkers?)]

/-- All settings as data, with what follows from them. -/
def toJson (s : Settings) : Json :=
  .obj
    [("generation", s.generation.toJson), ("validation", s.validation.toJson),
      ("performance", s.performance.toJson), ("llm", s.provider.toJson),
      ("concurrency", s.concurrency.toJson), ("logging", s.logging.toJson),
      ("derived", s.derivedJson)]

end Settings
end RemapSynth
