/-
What one engine run, or an estimate in its place, says about a program's
speed. No division is ever by zero: the time has a floor of a tenth of a
second, the processor share one of a tenth of a percent.
-/
import RemapSynth.Score.Estimate
import RemapSynth.Score.Calibration

namespace RemapSynth.Score

variable {α : Type}

/-- One engine run with what was sampled while it lasted. -/
structure MeasuredRun (α : Type := Float) where
  recordsIn : Nat := 0
  recordsOut : Nat := 0
  elapsed : Duration := .zero
  /-- Processor share in percent, at each tick. -/
  cpuSamples : List α := []
  /-- Memory in megabytes, at each tick. -/
  memorySamples : List α := []
  timedOut : Bool := false
  /-- The engine's own words when it turned the program down. -/
  errorText : Option String := none
  deriving Repr

/-- The mean of samples, added from left to right; zero without samples. -/
def mean [Scalar α] (samples : List α) : α :=
  if samples.isEmpty then 0.0
  else samples.foldl (· + ·) (-0.0) / Scalar.ofNat samples.length

/-- The largest of samples, and at least zero. -/
def peak [Scalar α] (samples : List α) : α := samples.foldl Scalar.larger 0.0

/-- Where a measurement comes from. -/
inductive Source
  | engine
  | estimate
  deriving Repr, DecidableEq

def Source.name : Source → String
  | engine => "engine"
  | estimate => "estimate"

/-- The speed of a program. -/
structure Measurement (α : Type := Float) where
  eventsPerSecond : α
  cpuPercent : α
  memoryMegabytes : α
  /-- Events a second for each percent of the processor. -/
  rate : α
  latencyMillis : α
  errorCount : Nat
  /-- The rate on the reference machine, as a whole number. -/
  index : Nat
  tier : Tier
  source : Source
  estimatedRate : α
  deriving Repr

/-- The floor of the time that events took. -/
def leastProcessing : Duration := .ofMillis 100

/-- The floor of the processor share in percent. -/
def leastCpu [Scalar α] : α := 0.1

/-- The rate on the reference machine, rounded to a whole number of 64 bits; zero for what is no
positive number. -/
def performanceIndex [Scalar α] (rate multiplier : α) : Nat :=
  let index := Scalar.round (rate * multiplier)
  if Scalar.isFinite index && 0.0 < index then Scalar.toWord index else 0

/-- A latency derived from a throughput. -/
def latencyFor [Scalar α] (eventsPerSecond : α) : α :=
  if 0.0 < eventsPerSecond then 1000.0 / eventsPerSecond * 100.0 else 0.0

/-- The time that events took in a run: all of it but the engine's start. -/
def processingTime (elapsed startup : Duration) : Duration :=
  (elapsed.minus startup).max leastProcessing

/-- What a run says about a program. -/
def Measurement.ofRun [Scalar α] (run : MeasuredRun α) (c : Calibration α) (b : Breakpoints α) :
    Measurement α :=
  let eventsPerSecond : α :=
    Scalar.ofNat run.recordsOut / Scalar.ofDuration (processingTime run.elapsed c.startup)
  let cpu := mean run.cpuSamples
  let rate := eventsPerSecond / Scalar.larger cpu leastCpu
  { eventsPerSecond
    cpuPercent := cpu
    memoryMegabytes := mean run.memorySamples
    rate
    latencyMillis := latencyFor eventsPerSecond
    errorCount := run.recordsIn - run.recordsOut
    index := performanceIndex rate c.multiplier
    tier := .classify rate b
    source := .engine
    estimatedRate := 0.0 }

/-- What an estimate says about a program. -/
def Measurement.ofEstimate [Scalar α] (e : Estimate α) (c : Calibration α) : Measurement α :=
  { eventsPerSecond := e.rate
    cpuPercent := 0.0
    memoryMegabytes := 0.0
    rate := e.rate
    latencyMillis := latencyFor e.rate
    errorCount := 0
    index := performanceIndex e.rate c.multiplier
    tier := e.tier
    source := .estimate
    estimatedRate := e.rate }

end RemapSynth.Score
