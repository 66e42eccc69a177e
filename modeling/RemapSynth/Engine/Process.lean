/-
Processes: how one was started, how it ended, and what it printed.
-/
import RemapSynth.Text.Line

namespace RemapSynth.Engine

/-- How a process ended. -/
inductive Ending
  | exited (code : Nat)
  | signaled (signal : Nat)
  deriving Repr, DecidableEq

/-- The names of the signals that end processes. -/
def signalNames : List (Nat × String) :=
  [(1, "SIGHUP"), (2, "SIGINT"), (3, "SIGQUIT"), (4, "SIGILL"), (5, "SIGTRAP"), (6, "SIGABRT"),
    (7, "SIGBUS"), (8, "SIGFPE"), (9, "SIGKILL"), (10, "SIGUSR1"), (11, "SIGSEGV"),
    (12, "SIGUSR2"), (13, "SIGPIPE"), (14, "SIGALRM"), (15, "SIGTERM"), (16, "SIGSTKFLT"),
    (17, "SIGCHLD"), (18, "SIGCONT"), (19, "SIGSTOP"), (20, "SIGTSTP"), (21, "SIGTTIN"),
    (22, "SIGTTOU"), (23, "SIGURG"), (24, "SIGXCPU"), (25, "SIGXFSZ"), (26, "SIGVTALRM"),
    (27, "SIGPROF"), (28, "SIGWINCH"), (29, "SIGIO"), (30, "SIGPWR"), (31, "SIGSYS")]

def Ending.message : Ending → String
  | exited code => "exit status: " ++ Nat.repr code
  | signaled n =>
    match signalNames.find? (·.1 == n) with
    | some (_, name) => "signal: " ++ Nat.repr n ++ " (" ++ name ++ ")"
    | none => "signal: " ++ Nat.repr n

/-- The exit code, of a process that ended with one. -/
def Ending.code? : Ending → Option Nat
  | exited code => some code
  | signaled _ => none

/-- What is left of a process. -/
structure Output where
  /-- None when its ending is not known. -/
  ending : Option Ending
  stdout : String
  stderr : String
  /-- It was stopped because its time was up. -/
  timedOut : Bool
  deriving Repr, DecidableEq

/-- Whether a process ended by itself and with code zero. -/
def Output.succeeded (o : Output) : Bool := !o.timedOut && o.ending == some (.exited 0)

/-- Everything a process printed: what it printed on its error output first, one line break
between the two; blank output does not count. -/
def Output.combined (o : Output) : String :=
  match Text.isBlankText o.stderr, Text.isBlankText o.stdout with
  | false, false => Text.trimEnd o.stderr ++ "\n" ++ Text.trimEnd o.stdout
  | false, true => o.stderr
  | true, _ => o.stdout

/-- A process to be started, and the files it is to find in its own new directory. Arguments that
name one of the files stand for the file's path. -/
structure Launch where
  binary : String
  arguments : List String
  files : List (String × String)
  deriving Repr, DecidableEq

/-- What came of starting a process. -/
inductive Started (α : Type)
  /-- There is no such program. -/
  | missing
  /-- The program could not be started, for the reason given. -/
  | refused (reason : String)
  | ran (result : α)
  deriving Repr, DecidableEq

end RemapSynth.Engine
