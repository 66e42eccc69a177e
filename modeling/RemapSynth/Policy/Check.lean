/-
The checks of a program text that need no engine: functions it must not
call and fields it must not write.
-/
import RemapSynth.Policy.Call
import RemapSynth.Policy.Assignment
import RemapSynth.Policy.Reserved
import RemapSynth.Diagnosis

namespace RemapSynth

/-- What a program may not do. -/
structure Policy where
  /-- Functions that must not be called. -/
  rejected : List String
  /-- Functions to be used instead. -/
  preferred : List String
  /-- The set of reserved names. -/
  reserved : List String
  deriving Repr, DecidableEq

namespace Policy

/-- A policy from configured lists. -/
def ofLists (rejected preferred reserved : List String) : Policy :=
  ⟨rejected, preferred, reservedSet reserved⟩

/-- The rejected functions that a program calls, in the configured order. -/
def findRejected (p : Policy) (program : String) : List String :=
  p.rejected.filter fun name => callsIn name.toList program.toList

/-- The message about rejected functions. -/
def rejectionMessage (p : Policy) (found : List String) : String :=
  Diagnosis.rejectedStart ++ " VRL contains regex functions: " ++ Text.joinWith ", " found ++
    ". Regex matching is too slow for this pipeline. Use instead: " ++
    Text.joinWith ", " p.preferred

/-- Each element of a list where it occurs first. -/
def firstOccurrences {α : Type} [BEq α] : List α → List α → List α
  | _, [] => []
  | seen, a :: rest =>
    if seen.contains a then firstOccurrences seen rest
    else a :: firstOccurrences (a :: seen) rest

/-- The assigned paths that collide with reserved fields, each once, in order of their first
occurrence. -/
def findConflicts (p : Policy) (program : String) : List Conflict :=
  (firstOccurrences [] (assignedPaths program.toList)).filterMap fun path =>
    (collision? p.reserved path).map fun collision => ⟨pathText path, collision⟩

/-- The message about reserved fields. -/
def conflictMessage (conflicts : List String) : String :=
  Diagnosis.conflictStart ++ " VRL writes reserved fields: " ++ Text.joinWith "; " conflicts ++
    ". Rename these outputs."

end Policy
end RemapSynth
