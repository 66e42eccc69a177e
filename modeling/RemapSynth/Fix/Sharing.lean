/-
Fixers that share a store. Their calls go on at the same time: between two
steps of one call the others may take steps of their own. A step is what a
call does to the store at one go, with nobody else at it: it learns one
lesson, or takes out the rules for its kind of error. Reading the message
before and changing the program after need no store.

All fixers have the same built-in rules, so which of them makes a call makes
no difference.
-/
import RemapSynth.Fix.Local

namespace RemapSynth.Fix

/-- How far a call has come. -/
inductive Stage
  /-- What its message teaches is being learned; `rest` is still to come. -/
  | learning (rest : List Lesson)
  | ended (fix : Option LocalFix)

/-- A call of a fixer: a program, the error message about it, and how far the call has come. -/
structure Call where
  code : String
  message : String
  stage : Stage

namespace Call

/-- The kind of error a call is about. -/
def diagnosis (c : Call) : Diagnosis := .ofMessage c.message

/-- What the message of a call teaches. -/
def lessons (c : Call) : List Lesson := Fix.lessons c.diagnosis c.message

/-- A call that has read its message, and has not come to the store yet. -/
def opening (code message : String) : Call :=
  ⟨code, message, .learning (Fix.lessons (.ofMessage message) message)⟩

/-- The next step of a call, and the store after it. Once all is learned the rules are taken out and
the program is repaired with them; a call that has ended takes no more steps. -/
def advance (c : Call) (s : Store) : Call × Store :=
  match c.stage with
  | .learning (lesson :: rest) =>
    ({ c with stage := .learning rest }, (s.learn c.diagnosis lesson).1)
  | .learning [] =>
    ({ c with stage := .ended (repairWith (s.allRules c.diagnosis) c.diagnosis c.code) }, s)
  | .ended _ => (c, s)

end Call

/-- A store with the calls that share it. -/
structure Sharing where
  store : Store
  calls : List Call

namespace Sharing

/-- Calls about to be made, given by program and message, and a store that has learned nothing. -/
def opening (calls : List (String × String)) : Sharing :=
  ⟨.empty, calls.map fun (code, message) => .opening code message⟩

/-- The call at place `i` takes its next step. -/
def step (w : Sharing) (i : Nat) : Sharing :=
  match w.calls[i]? with
  | none => w
  | some c => ⟨(c.advance w.store).2, w.calls.set i (c.advance w.store).1⟩

/-- What comes of it when the calls take steps in the order of a schedule. -/
def after (w : Sharing) (schedule : List Nat) : Sharing := schedule.foldl step w

end Sharing
end RemapSynth.Fix
