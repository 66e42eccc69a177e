/-
What is known of the machine that scores programs: how fast it is beside a
reference machine, and how long the engine takes to start.
-/
import RemapSynth.Score.Scalar

namespace RemapSynth.Score

variable {α : Type} [Scalar α]

/-- The scoring constants of a machine. -/
structure Calibration (α : Type := Float) where
  /-- Scales rates to the reference machine. -/
  multiplier : α
  /-- Taken off the time of every measured run. -/
  startup : Duration
  deriving Repr

/-- The least multiplier. -/
def leastMultiplier : α := 0.1

/-- The largest multiplier. -/
def largestMultiplier : α := 10.0

/-- A multiplier held within its bounds; one that is not finite is the largest. -/
def clampMultiplier (x : α) : α :=
  if !Scalar.isFinite x then largestMultiplier
  else if x < leastMultiplier then leastMultiplier
  else if largestMultiplier < x then largestMultiplier
  else x

/-- The multiplier of a machine that does `rate` operations a second where the reference machine
does `baseline`. -/
def multiplierFor (rate baseline : α) : α :=
  if rate ≤ 0.0 then 1.0 else clampMultiplier (baseline / rate)

/-- The shortest start of an engine that is believed. -/
def leastStartup : Duration := .ofMillis 100

/-- The start assumed for an engine that could not be timed. -/
def assumedStartup : Duration := .ofSeconds 1

/-- Given constants, the multiplier held within its bounds. -/
def Calibration.fixed (multiplier : α) (startup : Duration) : Calibration α :=
  ⟨clampMultiplier multiplier, startup⟩

end RemapSynth.Score
