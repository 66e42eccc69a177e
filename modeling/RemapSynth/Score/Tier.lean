/-
Performance tiers: seven labels for the number of events a program gets
through for each percent of a processor.
-/
import RemapSynth.Score.Scalar

namespace RemapSynth.Score

/-- A performance label, from worst to best. -/
inductive Tier
  | critical
  | verySlow
  | slow
  | moderate
  | fast
  | exceptional
  | top
  deriving Repr, DecidableEq

/-- The least number of events per CPU percent of each tier above the worst. -/
structure Breakpoints (α : Type := Float) [OfScientific α] where
  top : α := 15000.0
  exceptional : α := 5000.0
  fast : α := 300.0
  moderate : α := 150.0
  slow : α := 50.0
  verySlow : α := 3.0
  deriving Repr

namespace Tier

/-- The tier of a rate: the best one whose bound it reaches, the bound itself included. A rate
that is no number is in the worst. -/
def classify {α : Type} [Scalar α] (rate : α) (b : Breakpoints α) : Tier :=
  if Scalar.isNaN rate then critical
  else if b.top ≤ rate then top
  else if b.exceptional ≤ rate then exceptional
  else if b.fast ≤ rate then fast
  else if b.moderate ≤ rate then moderate
  else if b.slow ≤ rate then slow
  else if b.verySlow ≤ rate then verySlow
  else critical

/-- The place of a tier, counted from the worst. -/
def rank : Tier → Nat
  | critical => 0
  | verySlow => 1
  | slow => 2
  | moderate => 3
  | fast => 4
  | exceptional => 5
  | top => 6

def name : Tier → String
  | top => "top"
  | exceptional => "exceptional"
  | fast => "fast"
  | moderate => "moderate"
  | slow => "slow"
  | verySlow => "very_slow"
  | critical => "critical"

/-- All tiers, from worst to best. -/
def all : List Tier := [critical, verySlow, slow, moderate, fast, exceptional, top]

def ofName? (s : String) : Option Tier := all.find? (·.name == s)

/-- What a tier means, for people. -/
def description : Tier → String
  | top => "String operations only, near engine ceiling"
  | exceptional => "Very light parsing"
  | fast => "Fit for high-volume pipelines"
  | moderate => "Acceptable for most sources"
  | slow => "Heavy parsing functions on the hot path"
  | verySlow => "Likely regex-bound"
  | critical => "Unusable at volume"

end Tier
end RemapSynth.Score
