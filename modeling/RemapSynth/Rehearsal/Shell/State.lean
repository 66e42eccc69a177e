/-
A shell at work: its variables, its streams, its clock, and how it ended.
-/
import RemapSynth.Engine.Process
import RemapSynth.Rehearsal.Shell.Command

namespace RemapSynth.Rehearsal.Shell

open Engine (Ending)

structure State where
  bindings : List (List Char × List Char) := []
  status : Nat := 0
  /-- What the shell can still read. -/
  stdin : List UInt8 := []
  /-- What was printed, the last byte first. -/
  stdout : List UInt8 := []
  stderr : List UInt8 := []
  /-- Milliseconds since the start. -/
  clock : Nat := 0
  /-- How the shell ended, once it has. -/
  ending : Option Ending := none
  timedOut : Bool := false

namespace State

def get (s : State) (name : List Char) : List Char :=
  if name = ['?'] then Nat.toDigits 10 s.status
  else if name = ['$'] then ['$']
  else ((s.bindings.find? (·.1 == name)).map (·.2)).getD []

def assign (s : State) (name value : List Char) : State :=
  { s with bindings := (name, value) :: s.bindings.filter (·.1 != name) }

end State

/-- The shell after a wait; one that goes beyond the limit is its end. -/
def State.wait (s : State) (limit millis : Nat) : State :=
  if limit ≤ s.clock + millis then
    { s with clock := limit, ending := some (.signaled 9), timedOut := true }
  else { s with clock := s.clock + millis, status := 0 }

/-- The shell after printing to one of its streams. -/
def State.print (s : State) (redirects : List Redirect) (stream : Nat) (bytes : List UInt8) :
    State :=
  let target := redirects.foldr
    (fun r target => if target = some r.stream then r.target else target) (some stream)
  match target with
  | some 1 => { s with stdout := bytes.reverse ++ s.stdout }
  | some 2 => { s with stderr := bytes.reverse ++ s.stderr }
  | _ => s

/-- A shell whose work is done, back in the one that started it: its variables are gone, and its
end is a status, unless the time is up. -/
def State.returnTo (inner outer : State) : State :=
  if inner.timedOut then inner
  else
    { inner with
      bindings := outer.bindings
      ending := none
      status :=
        match inner.ending with
        | some (.exited code) => code
        | some (.signaled signal) => 128 + signal
        | none => inner.status }

end RemapSynth.Rehearsal.Shell
