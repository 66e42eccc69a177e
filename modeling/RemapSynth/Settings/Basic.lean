/-
The settings of a run, section by section, with their defaults, and what is
made of values that would make no sense.
-/
import RemapSynth.Duration
import RemapSynth.Score.Tier
import RemapSynth.Text.Blank

namespace RemapSynth

namespace Settings

/-- How programs are generated and repaired. -/
structure Generation where
  maxIterations : Nat := 10
  /-- How many equal kinds of failure in a row make a cycle. -/
  cycleWindow : Nat := 3
  /-- Whether a failed program is repaired at all. -/
  fixOnFailure : Bool := true
  generationTemperature : Float32 := 0.3
  repairTemperature : Float32 := 0.2
  maxTokens : Nat := 8000
  candidateCount : Nat := 3
  /-- How many turns of a conversation are kept word for word. -/
  historyTurns : Nat := 8
  deriving Repr

/-- What a program has to pass. -/
structure Validation where
  checkerEnabled : Bool := true
  runnerEnabled : Bool := true
  rejectedConstructCheck : Bool := true
  fieldConflictCheck : Bool := true
  timeoutSeconds : Nat := 30
  /-- How many samples the engine is given. -/
  sampleLimit : Nat := 5
  rejectedFunctions : List String :=
    ["parse_regex", "parse_regex_all", "match", "match_array", "to_regex"]
  preferredFunctions : List String :=
    ["contains", "split", "upcase", "downcase", "starts_with", "ends_with"]
  reservedFields : List String := []
  /-- A file with more reserved fields. -/
  reservedFieldsTable : Option String := none
  engineBinary : String := "vector"
  deriving Repr, DecidableEq

/-- How long the engine may take for validation: a second at the least. -/
def Validation.timeout (v : Validation) : Duration := .ofSeconds (max v.timeoutSeconds 1)

/-- What the best program is best at. -/
inductive Goal
  | throughput
  | cpuEfficiency
  | balanced
  deriving Repr, DecidableEq

def Goal.name : Goal → String
  | throughput => "throughput"
  | cpuEfficiency => "cpu_efficiency"
  | balanced => "balanced"

def Goal.ofName? (s : String) : Option Goal :=
  [throughput, cpuEfficiency, balanced].find? (·.name == s)

/-- How programs are measured and ranked. -/
structure Performance where
  batchSize : Nat := 10000
  measurementTimeoutSeconds : Nat := 60
  sampleIntervalMillis : Nat := 200
  /-- Operations a second of the reference machine. -/
  baselineRate : Float := 500000.0
  benchmarkIterations : Nat := 100000
  costThreshold : Float := 5.0
  goal : Goal := .balanced
  breakpoints : Score.Breakpoints := {}
  deriving Repr

/-- How long a measured run may take: a second at the least. -/
def Performance.timeout (p : Performance) : Duration :=
  .ofSeconds (max p.measurementTimeoutSeconds 1)

/-- The time between two ticks of sampling: ten milliseconds at the least. -/
def Performance.sampleInterval (p : Performance) : Duration :=
  .ofMillis (max p.sampleIntervalMillis 10)

/-- Where the model is asked. -/
structure Provider where
  baseUrl : String := "https://openrouter.ai/api/v1/chat/completions"
  /-- The environment variable that holds the key; the key itself is never stored. -/
  keyVariable : String := "OPENROUTER_API_KEY"
  /-- Models in the order in which they are tried. -/
  models : List String := ["anthropic/claude-sonnet-4", "openai/gpt-4.1", "google/gemini-2.5-pro"]
  requestTimeoutSeconds : Nat := 60
  deriving Repr, DecidableEq

/-- How many repair loops run at once. -/
structure Concurrency where
  maxWorkers : Option Nat := none
  workerCap : Nat := 8
  deriving Repr, DecidableEq

/-- The number of workers on a machine with `cores` cores: as configured, else one for each core
up to the cap; never none. -/
def Concurrency.workers (c : Concurrency) (cores : Nat) : Nat :=
  match c.maxWorkers with
  | some n => max n 1
  | none => max (min cores (max c.workerCap 1)) 1

/-- What is logged. -/
structure Logging where
  level : String := "info"
  json : Bool := false
  deriving Repr, DecidableEq

end Settings

structure Settings where
  generation : Settings.Generation := {}
  validation : Settings.Validation := {}
  performance : Settings.Performance := {}
  provider : Settings.Provider := {}
  concurrency : Settings.Concurrency := {}
  logging : Settings.Logging := {}
  deriving Repr

namespace Settings

/-- Models whose names are not blank; the default ones when none is left. -/
def sensibleModels (models : List String) : List String :=
  let named := models.filter fun m => !(Text.trim m).isEmpty
  if named.isEmpty then ({} : Provider).models else named

/-- Settings a run can work with: no count is zero, the reference rate is not below zero, and
there is a model. -/
def sensible (s : Settings) : Settings :=
  { s with
    generation :=
      { s.generation with
        maxIterations := max s.generation.maxIterations 1
        cycleWindow := max s.generation.cycleWindow 1
        candidateCount := max s.generation.candidateCount 1 }
    performance :=
      { s.performance with
        batchSize := max s.performance.batchSize 1
        baselineRate :=
          if s.performance.baselineRate ≤ 0.0 then ({} : Performance).baselineRate
          else s.performance.baselineRate }
    provider := { s.provider with models := sensibleModels s.provider.models } }

end Settings
end RemapSynth
