/-
Scripts: answers laid down beforehand, for a rehearsal without a model and
without an engine. An answer is found by what the question holds, or is the
next one in line.
-/
import RemapSynth.Text.Search

namespace RemapSynth.Rehearsal

/-- An answer for every text in which `contains` occurs. -/
structure Cue (α : Type) where
  contains : String
  answer : α
  deriving Repr

/-- The answer of the first cue that fits a text. -/
def cueFor? {α : Type} (cues : List (Cue α)) (text : String) : Option α :=
  (cues.find? fun cue => Text.contains text cue.contains).map (·.answer)

/-- Answers in line, and the one given when none is left. -/
structure Queue (α : Type) where
  next : List α := []
  fallback : Option α := none
  deriving Repr

/-- The next answer and the answers after it. -/
def Queue.take? {α : Type} (q : Queue α) : Option α × Queue α :=
  match q.next with
  | [] => (q.fallback, q)
  | a :: rest => (some a, { q with next := rest })

end RemapSynth.Rehearsal
