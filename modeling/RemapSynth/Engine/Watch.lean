/-
Watching an engine that runs a program on events. It is looked at from time
to time, and a run is over when the engine has ended, when every event has
come out, when nothing more has come out for a while, or when its time is
up; what comes first in this order decides.
-/
import RemapSynth.Engine.Run

namespace RemapSynth.Engine

/-- What is seen at one look at an engine. -/
structure Look where
  /-- The time since the engine was started. -/
  time : Duration
  ending : Option Ending
  recordsOut : Nat
  deriving Repr, DecidableEq

/-- How many events had come out by the last look, and when it was that there were more than
before. -/
structure Progress where
  recordsOut : Nat
  since : Duration
  deriving Repr, DecidableEq

def Progress.start : Progress := ⟨0, .zero⟩

def Progress.look (p : Progress) (l : Look) : Progress :=
  if l.recordsOut = p.recordsOut then p else ⟨l.recordsOut, l.time⟩

/-- Why a run is over. -/
inductive Halt
  | ended (ending : Ending)
  | complete (time : Duration)
  /-- Nothing more has come out since then. -/
  | idle (since : Duration)
  | outOfTime
  deriving Repr, DecidableEq

/-- The ending of an engine that ended by itself. -/
def Halt.ending? : Halt → Option Ending
  | ended ending => some ending
  | complete _ | idle _ | outOfTime => none

/-- When the last event came out, of a run that was stopped because no more were to come. -/
def Halt.finishedAt? : Halt → Option Duration
  | complete time => some time
  | idle since => some since
  | ended _ | outOfTime => none

/-- What a run is held to. -/
structure Watch where
  expected : Nat
  budget : Duration
  window : Duration

/-- How long an engine may write nothing before its run is taken to be over. -/
def idleWindow : Duration := .ofSeconds 1

/-- The time between two looks at an engine. -/
def pollInterval : Duration := .ofMillis 50

namespace Watch

/-- What a run on so many events within a budget is held to. -/
def run (expected : Nat) (budget : Duration) : Watch := ⟨expected, budget, idleWindow⟩

/-- Why a run is over at a look; none when it goes on. -/
def halt? (w : Watch) (p : Progress) (l : Look) : Option Halt :=
  match l.ending with
  | some ending => some (.ended ending)
  | none =>
    if w.expected ≤ l.recordsOut then some (.complete l.time)
    else if 0 < l.recordsOut ∧ w.window.nanos ≤ (l.time.minus p.since).nanos then
      some (.idle p.since)
    else if w.budget.nanos ≤ l.time.nanos then some .outOfTime
    else none

/-- Why a run is over, by looks one after the other; none when it goes on after the last. -/
def follow (w : Watch) (p : Progress) : List Look → Option Halt
  | [] => none
  | l :: looks =>
    match w.halt? (p.look l) l with
    | some halt => some halt
    | none => w.follow (p.look l) looks

end Watch

/-- What is read once a run is over and its engine is gone. -/
structure Remains where
  stdout : String
  stderr : String
  recordsOut : Nat
  /-- The time since the engine was started. -/
  time : Duration
  cpuSamples : List Float
  memorySamples : List Float

/-- What was seen of an engine altogether. -/
def Observation.ofHalt (halt : Halt) (r : Remains) : Observation where
  ending := halt.ending?
  stdout := r.stdout
  stderr := r.stderr
  recordsOut := r.recordsOut
  timedOut := halt = .outOfTime
  elapsed := halt.finishedAt?.getD r.time
  cpuSamples := r.cpuSamples
  memorySamples := r.memorySamples

end RemapSynth.Engine
