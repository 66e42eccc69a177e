/-
Running a program in an engine pipeline: events from a file, flattened and
filtered, then the program, then a file of results. The engine does not
stop by itself once it has read its input, so a run is over when every
event has come out, when nothing has come out for a while, or when its time
is up.
-/
import RemapSynth.Engine.Compile
import RemapSynth.Text.Lowercase
import RemapSynth.Sample
import RemapSynth.Score.Measurement

namespace RemapSynth.Engine

/-- What a run of a program came to. -/
structure RunOutput where
  recordsOut : Nat
  /-- The engine's own words when it turned the program down. -/
  errorText : Option String
  timedOut : Bool
  elapsed : Duration
  deriving Repr, DecidableEq

/-- The pipeline around a program. -/
def pipeline (input output dataDir code : String) : Json :=
  let texts := fun (s : String) => Json.arr [.str s]
  .object
    [("data_dir", .str dataDir),
      ("sources", .object
        [("samples", .object
          [("type", .str "file"), ("include", texts input), ("read_from", .str "beginning"),
            ("ignore_checkpoints", .bool true)])]),
      ("transforms", .object
        [("flatten", .object
            [("type", .str "remap"), ("inputs", texts "samples"),
              ("source", .str ". = parse_json(.message) ?? \x7b\x7d")]),
          ("non_empty", .object
            [("type", .str "filter"), ("inputs", texts "flatten"),
              ("condition", .str "!is_empty(.)")]),
          ("parser", .object
            [("type", .str "remap"), ("inputs", texts "non_empty"), ("source", .str code)])]),
      ("sinks", .object
        [("out", .object
          [("type", .str "file"), ("inputs", texts "parser"), ("path", .str output),
            ("encoding", .object [("codec", .str "json")])])])]

/-- How the engine is called to run a program on events. -/
def runLaunch (binary code : String) (samples : List Sample) : Launch where
  binary := binary
  arguments := ["--config", "pipeline.json", "--threads", "1", "--quiet"]
  files :=
    [("input.jsonl", Sample.renderAll samples),
      ("pipeline.json", (pipeline "input.jsonl" "output.jsonl" "data" code).pretty)]

/-- What was seen of the engine by the time a run was over. -/
structure Observation where
  /-- How the engine ended, if it did so by itself. -/
  ending : Option Ending
  stdout : String
  stderr : String
  recordsOut : Nat
  timedOut : Bool
  elapsed : Duration
  cpuSamples : List Float
  memorySamples : List Float
  deriving Repr

/-- How many lines of a log are quoted from its first error on. -/
def maxErrorLines : Nat := 30

/-- How much of the end of a log without an error is quoted, in characters. -/
def maxLogTail : Nat := 2000

/-- The place of the line at which a log tells what went wrong: the first that carries the code of
a diagnostic, else the first that speaks of an error. -/
def errorStart? (lines : List (List Char)) : Option Nat :=
  match lines.findIdx? isCoded with
  | some i => some i
  | none => lines.findIdx? fun line => Chars.contains (Chars.toLower line) "error".toList

/-- What a log says went wrong: the lines from the error on, else the end of the log; nothing when
the log is blank. -/
def engineErrorText (log : List Char) : Option (List Char) :=
  let lines := Chars.lines log
  match errorStart? lines with
  | some start =>
    some (Chars.truncate (Chars.joinWith ['\n'] ((lines.drop start).take maxErrorLines))
      maxErrorText)
  | none =>
    if Chars.isBlank log then none else some (Chars.tail (Chars.trim log) maxLogTail)

/-- The log of an engine: its error output, or its output when there is no other. -/
def Observation.log (o : Observation) : String :=
  if Text.isBlankText o.stderr then o.stdout else o.stderr

/-- Why a run of `expected` events was turned down: the engine ended before all had come out. -/
def Observation.errorText (o : Observation) (expected : Nat) : Option String :=
  match o.ending with
  | none => none
  | some ending =>
    if o.recordsOut < expected then
      some
        (match engineErrorText o.log.toList with
          | some text => .ofList text
          | none => "engine exited early (" ++ ending.message ++ ")")
    else none

/-- What an observed run of `expected` events came to. -/
def Observation.measured (o : Observation) (expected : Nat) : Score.MeasuredRun where
  recordsIn := expected
  recordsOut := o.recordsOut
  elapsed := o.elapsed
  cpuSamples := o.cpuSamples
  memorySamples := o.memorySamples
  timedOut := o.timedOut
  errorText := o.errorText expected

/-- What a run without events comes to; no engine is started for it. -/
def emptyRun : Score.MeasuredRun := { errorText := some "no input events" }

/-- What calling the engine on `expected` events came to. -/
def measuredOfStarted (binary : String) (expected : Nat) :
    Started Observation → Except Failure Score.MeasuredRun
  | .missing => .error (.infrastructure ("'" ++ binary ++ "' binary not found on PATH"))
  | .refused reason => .error (.infrastructure ("failed to start '" ++ binary ++ "': " ++ reason))
  | .ran o => .ok (o.measured expected)

/-- The part of a measured run that validation looks at. -/
def RunOutput.ofMeasured (run : Score.MeasuredRun) : RunOutput :=
  ⟨run.recordsOut, run.errorText, run.timedOut, run.elapsed⟩

end RemapSynth.Engine
