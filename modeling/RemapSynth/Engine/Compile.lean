/-
Compiling a program without running it on events. The engine has no mode
that only compiles, so the program is run on one empty event; a failure
that only this event causes means that the program compiled.
-/
import RemapSynth.Engine.Process
import RemapSynth.Text.Search
import RemapSynth.Text.Cut
import RemapSynth.Failure
import RemapSynth.Duration

namespace RemapSynth.Engine

/-- What compiling a program came to. -/
structure Compilation where
  ok : Bool
  errorText : Option String
  timedOut : Bool
  deriving Repr, DecidableEq

def Compilation.passed : Compilation := ⟨true, none, false⟩

def Compilation.failed (text : String) : Compilation := ⟨false, some text, false⟩

/-- How the engine is called to compile a program. -/
def compileLaunch (binary code : String) : Launch where
  binary := binary
  arguments := ["vrl", "--input", "input.json", "--program", "program.vrl", "--print-object"]
  files := [("program.vrl", code), ("input.json", "\x7b\x7d\n")]

/-- A line that carries the code of a diagnostic. -/
def isCoded (line : List Char) : Bool := Chars.contains line "error[E".toList

/-- The phrase that marks a failure at run time. -/
def callFailure : List Char := "function call error".toList

/-- A diagnostic of a failure at run time. -/
def isRuntime (line : List Char) : Bool :=
  Chars.contains line "error[E000]".toList || Chars.contains line callFailure

/-- Whether output is that of a program that compiled: every coded line is a failure at run time,
or, without coded lines, the engine succeeded or failed at run time. -/
def compiled (succeeded : Bool) (output : List Char) : Bool :=
  let coded := (Chars.lines output).filter isCoded
  if coded.isEmpty then succeeded || Chars.contains output callFailure else coded.all isRuntime

/-- The largest error text that is kept, in characters. -/
def maxErrorText : Nat := 4000

/-- The error text of a program that does not compile. -/
def compileErrorText (o : Output) : String :=
  if Text.isBlankText o.combined then
    "compile check failed with status " ++
      (match o.ending.bind Ending.code? with
        | some code => Nat.repr code
        | none => "unknown")
  else Text.truncate o.combined maxErrorText

/-- What a finished process says about the program it was to compile. -/
def Compilation.ofOutput (timeout : Duration) (o : Output) : Compilation :=
  if o.timedOut then
    ⟨false, some ("compile check exceeded " ++ Nat.repr timeout.seconds ++ "s"), true⟩
  else if compiled o.succeeded o.combined.toList then .passed
  else .failed (compileErrorText o)

/-- What calling the engine says about a program. -/
def Compilation.ofStarted (binary : String) (timeout : Duration) :
    Started Output → Except Failure Compilation
  | .missing => .error (.infrastructure ("'" ++ binary ++ "' binary not found on PATH"))
  | .refused reason => .error (.infrastructure ("failed to run '" ++ binary ++ "': " ++ reason))
  | .ran output => .ok (.ofOutput timeout output)

/-- The first line that carries the code of a diagnostic, else the first that is not blank. -/
def firstErrorLine (text : String) : String :=
  let lines := Chars.lines text.toList
  match lines.find? isCoded with
  | some line => .ofList (Chars.trim line)
  | none => .ofList (Chars.trim ((lines.find? fun line => !Chars.isBlank line).getD []))

end RemapSynth.Engine
