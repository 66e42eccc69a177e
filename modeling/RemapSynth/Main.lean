/-
The program itself: the questions of a command answered by the machine it
runs on. Files, the environment, the clock and the two output streams are
within its reach; processes of an engine and the network are not, so every
engine is missing and every provider out of reach.
-/
import RemapSynth.Command.Run
import RemapSynth.Command.Clock
import RemapSynth.Width

namespace RemapSynth.Machine

open Command

/-- The words for the numbers under which a system tells why a file cannot be used. -/
def reasons : List (Nat × String) :=
  [(1, "Operation not permitted"), (2, "No such file or directory"), (5, "Input/output error"),
    (13, "Permission denied"), (17, "File exists"), (20, "Not a directory"), (21, "Is a directory"),
    (22, "Invalid argument"), (24, "Too many open files"), (28, "No space left on device"),
    (30, "Read-only file system"), (36, "File name too long"), (39, "Directory not empty"),
    (40, "Too many levels of symbolic links")]

/-- The number of an error; some calls give it with its sign changed. -/
def numberOf (code : UInt32) : Nat := min code.toNat (Width.maxHalfWord + 1 - code.toNat)

/-- The wording of an error of a given number. -/
def numbered (code : UInt32) (details : String) : String :=
  let n := numberOf code
  ((reasons.find? (·.1 == n)).elim details (·.2)) ++ " (os error " ++ Nat.repr n ++ ")"

/-- Why a file could not be used, in the words of the system. -/
def wording (e : IO.Error) : String :=
  match e with
  | .noFileOrDirectory _ code details | .permissionDenied _ code details
  | .inappropriateType _ code details | .alreadyExists _ code details
  | .invalidArgument _ code details | .resourceExhausted _ code details
  | .noSuchThing _ code details | .otherError code details => numbered code details
  | e => toString e

/-- What an action on files comes to. -/
def attempt {α : Type} (action : IO α) : IO (Except String α) := do
  match ← action.toBaseIO with
  | .ok a => return .ok a
  | .error e => return .error (wording e)

def readText (path : String) : IO (Except String String) := do
  match ← attempt (IO.FS.readBinFile path) with
  | .error cause => return .error cause
  | .ok bytes =>
    return (String.fromUTF8? bytes).elim (.error "stream did not contain valid UTF-8") .ok

/-- A line such as parsers meet. -/
def benchmarkLine : String :=
  "Dec 10 06:55:46 LabSZ sshd[24200]: Invalid user test from 192.168.1.100 port 22"

/-- The work of one round: splitting, searching, changing case and cutting. -/
def benchmarkRound (line : String) : Nat :=
  let s := line.toList
  (Chars.splitAt ' ' s).length + (if Chars.contains s "Invalid".toList then 1 else 0) +
    (Chars.toLower s).length + (s.take 10).length

/-- Rounds of the benchmark a second. -/
def rate (rounds : Nat) : IO Float := do
  let rounds := max rounds 1
  let work ← IO.mkRef 0
  let start ← IO.monoNanosNow
  for i in [0:rounds] do
    work.modify (· + benchmarkRound benchmarkLine + i)
  let time := (← IO.monoNanosNow) - start
  return if time = 0 then 0.0 else Float.ofNat rounds / (Float.ofNat time / 1e9)

/-- The time of day, told by the date of a file that was just made. -/
def now : IO String := do
  let (_, path) ← IO.FS.createTempFile
  let time := (← path.metadata).modified
  IO.FS.removeFile path
  return momentText time.sec.toNat time.nsec.toNat

/-- The answer of this machine to a question. -/
def answer : (q : Ask) → IO (Answer q)
  | .readFile path => readText path
  | .writeFile path text => attempt (IO.FS.writeFile path text)
  | .rename source target => attempt (IO.FS.rename source target)
  | .createDirectory path => attempt (IO.FS.createDirAll path)
  | .environment name => IO.getEnv name
  | .say text => IO.print text
  | .complain text => IO.eprint text
  | .rate rounds => rate rounds
  | .now => now
  | .wait time => IO.sleep time.millis.toUInt32
  | .send _ _ _ => return .unreachable
  | .compile _ _ => return .missing
  | .observe _ _ _ _ => return .missing

/-- What a command comes to on this machine. -/
def perform {α : Type} : Course α → IO α
  | .done a => return a
  | .ask q next => do perform (next (← answer q))

end RemapSynth.Machine

/-- Does what the arguments ask for; the exit code. -/
def main (arguments : List String) : IO UInt32 := do
  return UInt32.ofNat (← RemapSynth.Machine.perform (RemapSynth.Command.invoke arguments))
