/-
What an engine is asked to do with a program, and how it answers. Checks
and measurements are written against these questions, whoever answers them.
-/
import RemapSynth.Dialogue
import RemapSynth.Engine.Run

namespace RemapSynth.Engine

/-- A question to an engine. -/
inductive Ask
  | compile (code : String)
  | execute (code : String) (samples : List Sample)
  /-- To run a program for no longer than `budget` while it is watched. -/
  | measure (code : String) (samples : List Sample) (budget : Duration)

abbrev Answer : Ask → Type
  | .compile _ => Except Failure Compilation
  | .execute _ _ => Except Failure RunOutput
  | .measure _ _ _ => Except Failure Score.MeasuredRun

end RemapSynth.Engine
