/-
Settings as a TOML document. Every section and every key may be missing;
what is there must have the right type, and what is not known is passed
over.
-/
import RemapSynth.Settings.Basic
import RemapSynth.Toml.Document
import RemapSynth.Toml.Printer
import RemapSynth.Width

namespace RemapSynth.Settings

open Width (maxWord maxHalfWord)

/-- A whole number from zero up to a bound. -/
def natural? (bound : Nat) : Toml → Option Nat
  | .int n => if 0 ≤ n ∧ n ≤ bound then some n.toNat else none
  | _ => none

/-- A number, whole or not. -/
def double? : Toml → Option Float
  | .int n => some (Float.ofInt n)
  | .float x => some x
  | _ => none

/-- A number, whole or not, in single precision. -/
def single? : Toml → Option Float32
  | .int n => some (Float32.ofInt n)
  | .float x => some x.toFloat32
  | _ => none

def truth? : Toml → Option Bool
  | .bool b => some b
  | _ => none

def text? : Toml → Option String
  | .str s => some s
  | _ => none

def texts? : Toml → Option (List String)
  | .arr items => items.mapM text?
  | _ => none

/-- A goal by its name, which may also be the only key of a table with nothing in it. -/
def goal? : Toml → Option Goal
  | .str s => Goal.ofName? s
  | .table [(name, .table [])] | .table [(name, .arr [])] => Goal.ofName? name
  | _ => none

/-- The way into a section: the value of each key. A section is a table, or an array of the values
of its keys in order; a date counts as a table without any key that is known. -/
def section? (keys : List String) : Toml → Option (String → Option Toml)
  | .table entries => some fun key => (entries.find? (·.1 == key)).map (·.2)
  | .arr items => some fun key => (keys.findIdx? (· == key)).bind fun i => items[i]?
  | .moment _ => some fun _ => none
  | _ => none

/-- The value of a key, or a default where the key is missing; none where it has the wrong type. -/
def entry {α : Type} (get : String → Option Toml) (key : String) (read : Toml → Option α)
    (default : α) : Option α :=
  match get key with
  | none => some default
  | some value => read value

def Generation.ofToml? (t : Toml) : Option Generation := do
  let get ← section?
    ["max_iterations", "cycle_window", "fix_on_failure", "generation_temperature",
      "repair_temperature", "max_tokens", "candidate_count", "history_turns"] t
  let d : Generation := {}
  return {
    maxIterations := ← entry get "max_iterations" (natural? maxWord) d.maxIterations
    cycleWindow := ← entry get "cycle_window" (natural? maxWord) d.cycleWindow
    fixOnFailure := ← entry get "fix_on_failure" truth? d.fixOnFailure
    generationTemperature :=
      ← entry get "generation_temperature" single? d.generationTemperature
    repairTemperature := ← entry get "repair_temperature" single? d.repairTemperature
    maxTokens := ← entry get "max_tokens" (natural? maxHalfWord) d.maxTokens
    candidateCount := ← entry get "candidate_count" (natural? maxWord) d.candidateCount
    historyTurns := ← entry get "history_turns" (natural? maxWord) d.historyTurns }

def Validation.ofToml? (t : Toml) : Option Validation := do
  let get ← section?
    ["checker_enabled", "runner_enabled", "rejected_construct_check", "field_conflict_check",
      "timeout_secs", "sample_limit", "rejected_functions", "preferred_functions",
      "reserved_fields", "reserved_fields_csv", "vector_binary"] t
  let d : Validation := {}
  return {
    checkerEnabled := ← entry get "checker_enabled" truth? d.checkerEnabled
    runnerEnabled := ← entry get "runner_enabled" truth? d.runnerEnabled
    rejectedConstructCheck :=
      ← entry get "rejected_construct_check" truth? d.rejectedConstructCheck
    fieldConflictCheck := ← entry get "field_conflict_check" truth? d.fieldConflictCheck
    timeoutSeconds := ← entry get "timeout_secs" (natural? maxWord) d.timeoutSeconds
    sampleLimit := ← entry get "sample_limit" (natural? maxWord) d.sampleLimit
    rejectedFunctions := ← entry get "rejected_functions" texts? d.rejectedFunctions
    preferredFunctions := ← entry get "preferred_functions" texts? d.preferredFunctions
    reservedFields := ← entry get "reserved_fields" texts? d.reservedFields
    reservedFieldsTable :=
      ← entry get "reserved_fields_csv" (fun t => (text? t).map some) d.reservedFieldsTable
    engineBinary := ← entry get "vector_binary" text? d.engineBinary }

/-- The section `tier_breakpoints`. -/
def breakpoints? (t : Toml) : Option Score.Breakpoints := do
  let get ← section? ["top", "exceptional", "fast", "moderate", "slow", "very_slow"] t
  let d : Score.Breakpoints := {}
  return {
    top := ← entry get "top" double? d.top
    exceptional := ← entry get "exceptional" double? d.exceptional
    fast := ← entry get "fast" double? d.fast
    moderate := ← entry get "moderate" double? d.moderate
    slow := ← entry get "slow" double? d.slow
    verySlow := ← entry get "very_slow" double? d.verySlow }

def Performance.ofToml? (t : Toml) : Option Performance := do
  let get ← section?
    ["batch_size", "measurement_timeout_secs", "sample_interval_ms", "baseline_ops_per_sec",
      "benchmark_iterations", "cost_threshold", "optimize_for", "tier_breakpoints"] t
  let d : Performance := {}
  return {
    batchSize := ← entry get "batch_size" (natural? maxWord) d.batchSize
    measurementTimeoutSeconds :=
      ← entry get "measurement_timeout_secs" (natural? maxWord) d.measurementTimeoutSeconds
    sampleIntervalMillis :=
      ← entry get "sample_interval_ms" (natural? maxWord) d.sampleIntervalMillis
    baselineRate := ← entry get "baseline_ops_per_sec" double? d.baselineRate
    benchmarkIterations :=
      ← entry get "benchmark_iterations" (natural? maxHalfWord) d.benchmarkIterations
    costThreshold := ← entry get "cost_threshold" double? d.costThreshold
    goal := ← entry get "optimize_for" goal? d.goal
    breakpoints := ← entry get "tier_breakpoints" breakpoints? d.breakpoints }

/-- The section `llm`. -/
def Provider.ofToml? (t : Toml) : Option Provider := do
  let get ← section? ["base_url", "api_key_env", "models", "request_timeout_secs"] t
  let d : Provider := {}
  return {
    baseUrl := ← entry get "base_url" text? d.baseUrl
    keyVariable := ← entry get "api_key_env" text? d.keyVariable
    models := ← entry get "models" texts? d.models
    requestTimeoutSeconds :=
      ← entry get "request_timeout_secs" (natural? maxWord) d.requestTimeoutSeconds }

def Concurrency.ofToml? (t : Toml) : Option Concurrency := do
  let get ← section? ["max_workers", "worker_cap"] t
  let d : Concurrency := {}
  return {
    maxWorkers :=
      ← entry get "max_workers" (fun t => (natural? maxWord t).map some) d.maxWorkers
    workerCap := ← entry get "worker_cap" (natural? maxWord) d.workerCap }

def Logging.ofToml? (t : Toml) : Option Logging := do
  let get ← section? ["level", "json"] t
  let d : Logging := {}
  return {
    level := ← entry get "level" text? d.level
    json := ← entry get "json" truth? d.json }

/-- Settings from a document, made sensible; none when the text is no TOML or a value has the
wrong type. -/
def ofDocument? (text : String) : Option Settings := do
  let get ← section? [] (.table (← Toml.parse? text))
  let s : Settings := {
    generation := ← entry get "generation" Generation.ofToml? {}
    validation := ← entry get "validation" Validation.ofToml? {}
    performance := ← entry get "performance" Performance.ofToml? {}
    provider := ← entry get "llm" Provider.ofToml? {}
    concurrency := ← entry get "concurrency" Concurrency.ofToml? {}
    logging := ← entry get "logging" Logging.ofToml? {} }
  return s.sensible

def ofTexts (texts : List String) : Toml := .arr (texts.map .str)

/-- A single-precision number as the double it widens to. -/
def ofSingle (x : Float32) : Toml := .float x.toFloat

/-- The sections of a document, a key without a value left out. -/
def sections (s : Settings) : List (String × List (String × Toml)) :=
  let g := s.generation
  let v := s.validation
  let p := s.performance
  let b := p.breakpoints
  let m := s.provider
  let c := s.concurrency
  [("generation",
      [("max_iterations", .int g.maxIterations), ("cycle_window", .int g.cycleWindow),
        ("fix_on_failure", .bool g.fixOnFailure),
        ("generation_temperature", ofSingle g.generationTemperature),
        ("repair_temperature", ofSingle g.repairTemperature), ("max_tokens", .int g.maxTokens),
        ("candidate_count", .int g.candidateCount), ("history_turns", .int g.historyTurns)]),
    ("validation",
      [("checker_enabled", .bool v.checkerEnabled), ("runner_enabled", .bool v.runnerEnabled),
        ("rejected_construct_check", .bool v.rejectedConstructCheck),
        ("field_conflict_check", .bool v.fieldConflictCheck),
        ("timeout_secs", .int v.timeoutSeconds), ("sample_limit", .int v.sampleLimit),
        ("rejected_functions", ofTexts v.rejectedFunctions),
        ("preferred_functions", ofTexts v.preferredFunctions),
        ("reserved_fields", ofTexts v.reservedFields)] ++
        (v.reservedFieldsTable.toList.map fun path => ("reserved_fields_csv", .str path)) ++
        [("vector_binary", .str v.engineBinary)]),
    ("performance",
      [("batch_size", .int p.batchSize),
        ("measurement_timeout_secs", .int p.measurementTimeoutSeconds),
        ("sample_interval_ms", .int p.sampleIntervalMillis),
        ("baseline_ops_per_sec", .float p.baselineRate),
        ("benchmark_iterations", .int p.benchmarkIterations),
        ("cost_threshold", .float p.costThreshold), ("optimize_for", .str p.goal.name)]),
    ("performance.tier_breakpoints",
      [("top", .float b.top), ("exceptional", .float b.exceptional), ("fast", .float b.fast),
        ("moderate", .float b.moderate), ("slow", .float b.slow),
        ("very_slow", .float b.verySlow)]),
    ("llm",
      [("base_url", .str m.baseUrl), ("api_key_env", .str m.keyVariable),
        ("models", ofTexts m.models), ("request_timeout_secs", .int m.requestTimeoutSeconds)]),
    ("concurrency",
      (c.maxWorkers.toList.map fun n => ("max_workers", .int n)) ++
        [("worker_cap", .int c.workerCap)]),
    ("logging", [("level", .str s.logging.level), ("json", .bool s.logging.json)])]

/-- Whether a value has a place in a TOML document: a whole number must fit 63 bits and a sign. -/
def isWritable : Toml → Bool
  | .int n => n < Width.signBound
  | _ => true

/-- Settings as a document, made sensible; none when a number is too large for one. -/
def toDocument? (s : Settings) : Option String :=
  let sections := s.sensible.sections
  if sections.all fun (_, entries) => entries.all fun (_, value) => isWritable value then
    some (Toml.writeSections sections)
  else none

end RemapSynth.Settings
