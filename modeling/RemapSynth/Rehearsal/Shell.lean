/-
A small command shell, enough to rehearse what a child process prints and
how it ends. Time is kept by a clock of its own: a script that is not done
when its time is up is killed then, and keeps what it has printed.
-/
import RemapSynth.Rehearsal.Shell.Expand
import RemapSynth.Rehearsal.Shell.Filter
import RemapSynth.Text.Utf8

namespace RemapSynth.Rehearsal.Shell

open Engine (Output)

/-- The number of a signal by its name or number. -/
def signalOf (word : List Char) : Nat :=
  match Chars.readNat? word with
  | some n => n
  | none =>
    let name := String.ofList word
    ((Engine.signalNames.find? fun (_, s) => s == name || s == "SIG" ++ name).map (·.1)).getD 15

/-- Whether a test of a shell holds. -/
def holds (s : State) : List (List Char) → Bool
  | [a, op, b] =>
    let (x, y) := (operand s a, operand s b)
    match String.ofList op with
    | "-lt" => x < y
    | "-le" => x ≤ y
    | "-gt" => y < x
    | "-ge" => y ≤ x
    | "-eq" => x == y
    | "-ne" => x != y
    | "=" => a == b
    | "!=" => a != b
    | _ => false
  | [op, a] =>
    match String.ofList op with
    | "-n" => !a.isEmpty
    | "-z" => a.isEmpty
    | _ => false
  | [a] => !a.isEmpty
  | _ => false

/-- The milliseconds of a time in seconds, with or without a fraction. -/
def millisOf (word : List Char) : Nat :=
  let whole := word.takeWhile (· ≠ '.')
  let fraction := ((word.drop (whole.length + 1)) ++ ['0', '0', '0']).take 3
  (Chars.readNat? whole).getD 0 * 1000 + (Chars.readNat? fraction).getD 0

/-- One command with its arguments. -/
def call (limit : Nat) (s : State) (redirects : List Redirect) : List (List Char) → State
  | [] => { s with status := 0 }
  | name :: arguments =>
    let done := fun (s : State) => { s with status := 0 }
    match String.ofList name, arguments with
    | "exit", [] => { s with ending := some (.exited s.status) }
    | "exit", code :: _ => { s with ending := some (.exited ((Chars.readNat? code).getD 2 % 256)) }
    | "kill", [signal, ['$']] =>
      { s with ending := some (.signaled (signalOf (signal.drop 1))) }
    | "kill", [['-', 's'], signal, ['$']] => { s with ending := some (.signaled (signalOf signal)) }
    | "kill", [['$']] => { s with ending := some (.signaled 15) }
    | "sleep", time :: _ => s.wait limit (millisOf time)
    | "echo", ['-', 'n'] :: words =>
      done (s.print redirects 1 (echoed [] words))
    | "echo", words => done (s.print redirects 1 (echoed [10] words))
    | "printf", layout :: words =>
      done (s.print redirects 1 (format (words.length + 1) layout words))
    | "seq", [high] =>
      done (s.print redirects 1 (bytesOf (countLines 1 ((Chars.readNat? high).getD 0))))
    | "seq", [low, high] =>
      done (s.print redirects 1
        (bytesOf (countLines ((Chars.readNat? low).getD 0) ((Chars.readNat? high).getD 0))))
    | "false", _ => { s with status := 1 }
    | "test", words => { s with status := if holds s words then 0 else 1 }
    | "[", words => { s with status := if holds s words.dropLast then 0 else 1 }
    | "cat", [] | "cat", [['-']] => done ({ s with stdin := [] }.print redirects 1 s.stdin)
    | "head", words =>
      let input :=
        if words.getLast? = some "/dev/zero".toList then List.replicate sourceBytes 0 else s.stdin
      done ({ s with stdin := [] }.print redirects 1 (headOf input words))
    | "tr", [['-', 'd'], set] =>
      let gone := setBytes (set.length + 1) set
      done ({ s with stdin := [] }.print redirects 1 (s.stdin.filter fun b => !gone.contains b))
    | "tr", [set, other] =>
      let change := substituted (setBytes (set.length + 1) set) (setBytes (other.length + 1) other)
      done ({ s with stdin := [] }.print redirects 1 (s.stdin.map change))
    | "wc", [['-', 'l']] =>
      let count := (s.stdin.filter (· = 10)).length
      done ({ s with stdin := [] }.print redirects 1 (bytesOf (Nat.toDigits 10 count ++ ['\n'])))
    | "wc", [['-', 'c']] =>
      let count := s.stdin.length
      done ({ s with stdin := [] }.print redirects 1 (bytesOf (Nat.toDigits 10 count ++ ['\n'])))
    | "yes", words =>
      let line := bytesOf ((if words.isEmpty then ['y'] else Chars.joinWith [' '] words) ++ ['\n'])
      done (s.print redirects 1 (List.replicate (sourceBytes / line.length) line).flatten)
    | "read", words =>
      let line := s.stdin.takeWhile (· ≠ 10)
      let rest := s.stdin.drop line.length
      let name := (words.filter (·.head? ≠ some '-')).head?.getD ['R', 'E', 'P', 'L', 'Y']
      let value := Chars.trim (Utf8.lossy line)
      { s.assign name value with stdin := rest.drop 1, status := if rest.isEmpty then 1 else 0 }
    | "true", _ | ":", _ | "cat", _ | "set", _ | "export", _ | "trap", _ | "wait", _ => done s
    | unknown, _ =>
      { s.print redirects 2 (bytesOf ("sh: 1: " ++ unknown ++ ": not found\n").toList) with
        status := 127 }

/-- A simple command: its assignments, then the command itself. A command behind `exec` takes the
shell's place, so that the shell ends with it. -/
def runSimple (limit : Nat) (s : State) (redirects : List Redirect) :
    List (List (Piece × Bool)) → State
  | [] => { s with status := 0 }
  | w :: words =>
    match assignment? w [] with
    | some (name, value) =>
      let s := { s.assign name (expandWhole s value) with status := 0 }
      if words.isEmpty then s else runSimple limit s redirects words
    | none =>
      match (w :: words).flatMap (expand s) with
      | ['e', 'x', 'e', 'c'] :: rest =>
        let s := call limit s redirects rest
        if s.ending.isSome || rest.isEmpty then s else { s with ending := some (.exited s.status) }
      | arguments => call limit s redirects arguments

/-- What runs a command for each of some items. -/
def runEach (run : State → State) (name : List Char) (s : State) (items : List (List Char)) :
    State :=
  items.foldl (fun s item => if s.ending.isSome then s else run (s.assign name item)) s

/-- The shell after a command. -/
def run (limit : Nat) : Nat → Command → State → State
  | 0, _, s => { s with clock := limit, ending := some (.signaled 9), timedOut := true }
  | fuel + 1, command, s =>
    if s.ending.isSome then s
    else
      match command with
      | .nothing => s
      | .simple words redirects => runSimple limit s redirects words
      | .sequence first second => run limit fuel second (run limit fuel first s)
      | .chain wanted first second =>
        let s := run limit fuel first s
        if s.ending.isNone && (s.status == 0) == wanted then run limit fuel second s else s
      | .repeated wanted test body =>
        let s := run limit fuel test s
        if s.ending.isNone && (s.status == 0) == wanted then
          run limit fuel (.repeated wanted test body) (run limit fuel body s)
        else if s.ending.isNone then { s with status := 0 }
        else s
      | .each name items body =>
        runEach (run limit fuel body) name s (items.flatMap (expand s))
      | .choice test yes no =>
        let s := run limit fuel test s
        run limit fuel (if s.status == 0 then yes else no) s
      | .negated body =>
        let s := run limit fuel body s
        { s with status := if s.status == 0 then 1 else 0 }
      | .nested body => (run limit fuel body s).returnTo s
      | .pipe first second =>
        let writer := run limit fuel first { s with stdout := [] }
        let reader := run limit fuel second
          { s with stdin := writer.stdout.reverse, stderr := writer.stderr, clock := writer.clock }
        { reader.returnTo s with stdin := s.stdin }
      | .background body =>
        let other := run (limit + 86400000) fuel body { s with stdin := [] }
        { s with stdout := other.stdout, stderr := other.stderr, status := 0 }
      | .redirected body redirects =>
        let inner := run limit fuel body { s with stdout := [], stderr := [] }
        let outer := { inner with stdout := s.stdout, stderr := s.stderr }
        (outer.print redirects 1 inner.stdout.reverse).print redirects 2 inner.stderr.reverse

/-- How many commands deep a script may go, loops included. -/
def maxSteps : Nat := 100000

/-- What is left of a shell that was to run a script within `timeout` milliseconds. -/
def output (script : String) (timeout : Nat) : Output :=
  let s := run timeout maxSteps (read script) {}
  { ending := some (s.ending.getD (.exited s.status))
    stdout := .ofList (Utf8.lossy s.stdout.reverse)
    stderr := .ofList (Utf8.lossy s.stderr.reverse)
    timedOut := s.timedOut }

end RemapSynth.Rehearsal.Shell
