/-
An estimate of a program's throughput from the functions it calls.

Each known function has a rate at which it could run alone. The estimate is
the harmonic combination of the rates of all call sites, a call site being
a line together with a function called on it.
-/
import RemapSynth.Policy.Call
import RemapSynth.Score.Tier

namespace RemapSynth.Score

/-- Events per CPU percent that each known function sustains on its own. -/
def functionRates : List (String × Nat) :=
  [("contains", 400), ("split", 380), ("length", 380), ("slice", 370), ("upcase", 350),
    ("downcase", 350), ("starts_with", 320), ("ends_with", 320), ("to_string", 280),
    ("to_bool", 260), ("to_int", 250), ("to_float", 240), ("parse_json", 180),
    ("parse_syslog", 150), ("parse_timestamp", 120), ("md5", 100), ("sha2", 90), ("capture", 12),
    ("match", 10), ("parse_regex", 8), ("parse_regex_all", 5)]

/-- The scale of the combined rate. -/
def estimateScale : Nat := 1000

/-- The rate taken for a program that calls no known function. -/
def plainRate : Nat := 300

/-- The known functions called on a line, in the order of the table. -/
def lineCalls (line : List Char) : List (String × Nat) :=
  functionRates.filter fun (name, _) => Policy.callsOn name.toList line

/-- The call sites of a program, line by line. -/
def callSites (program : List Char) : List (String × Nat) :=
  (Policy.codeLines program).flatMap lineCalls

/-- One more line counted for a function. -/
def countCall (name : String) : List (String × Nat) → List (String × Nat)
  | [] => [(name, 1)]
  | (n, k) :: counts => if n = name then (n, k + 1) :: counts else (n, k) :: countCall name counts

/-- Each called function with the number of lines that call it, in order of first calls. -/
def callCounts (program : List Char) : List (String × Nat) :=
  (callSites program).foldl (fun counts (name, _) => countCall name counts) []

/-- What is expected of a program without running it. -/
structure Estimate (α : Type := Float) where
  /-- Events per CPU percent. -/
  rate : α
  calls : List (String × Nat)
  tier : Tier
  deriving Repr

/-- The combined rate of call sites, rounded, and never below one. -/
def combinedRate {α : Type} [Scalar α] (rates : List Nat) : α :=
  let total := rates.foldl (fun (total : α) rate => total + 1.0 / Scalar.ofNat rate) 0.0
  if 0.0 < total then Scalar.larger (Scalar.round (Scalar.ofNat estimateScale / total)) 1.0
  else Scalar.ofNat plainRate

def estimate {α : Type} [Scalar α] (program : String) (breakpoints : Breakpoints α) :
    Estimate α :=
  let rate : α := combinedRate ((callSites program.toList).map (·.2))
  ⟨rate, callCounts program.toList, .classify rate breakpoints⟩

end RemapSynth.Score
