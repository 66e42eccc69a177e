/-
The store of learned rules. It only ever grows at its end, and it holds one
rule for a construct under one kind of error: whatever comes first stays.
-/
import RemapSynth.Fix.Lesson

namespace RemapSynth.Fix

/-- A learned rule with the kind of error it is for. -/
structure Learned where
  diagnosis : Diagnosis
  lesson : Lesson

/-- What was learned so far, in order. -/
structure Store where
  learned : List Learned

namespace Store

def empty : Store := ⟨[]⟩

def size (s : Store) : Nat := s.learned.length

/-- Whether a rule for the construct was learned under the kind of error. -/
def knows (s : Store) (d : Diagnosis) (construct : String) : Bool :=
  s.learned.any fun l => l.diagnosis = d ∧ l.lesson.construct = construct

/-- The store with a lesson learned, and whether it has grown. -/
def learn (s : Store) (d : Diagnosis) (lesson : Lesson) : Store × Bool :=
  if s.knows d lesson.construct then (s, false) else (⟨s.learned ++ [⟨d, lesson⟩]⟩, true)

def learnAll (s : Store) (d : Diagnosis) (lessons : List Lesson) : Store :=
  lessons.foldl (fun s lesson => (s.learn d lesson).1) s

/-- The lessons under one kind of error, in the order they were learned. -/
def lessonsFor (s : Store) (d : Diagnosis) : List Lesson :=
  (s.learned.filter (·.diagnosis = d)).map (·.lesson)

/-- The rules under one kind of error, in the order they were learned. -/
def rulesFor (s : Store) (d : Diagnosis) : List Rule := (s.lessonsFor d).map (·.rule)

end Store
end RemapSynth.Fix
