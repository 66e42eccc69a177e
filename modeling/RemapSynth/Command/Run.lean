/-
The three commands: generating programs and keeping the best, checking one
program, and measuring the machine.
-/
import RemapSynth.Command.Arguments
import RemapSynth.Command.Storage
import RemapSynth.Command.Table
import RemapSynth.Selection.Run

namespace RemapSynth.Command

open Chat Generation

/-- The name and the number of the program. -/
def versionText : String := "vrl-forge 0.1.0\n"

/-- How the program is called. -/
def usageText : String :=
  "Generate, repair and rank VRL parsers for log samples\n\n" ++
    "Usage: vrl-forge [--config <CONFIG>] <COMMAND>\n\n" ++
    "Commands:\n" ++
    "  generate --samples <SAMPLES> [--baseline <BASELINE>] [--out <OUT>] " ++
    "[--candidates <CANDIDATES>]\n" ++
    "  check [--samples <SAMPLES>] <PROGRAM>\n" ++
    "  calibrate\n"

/-- The exit code of a command that did all it was asked to. -/
def successCode : Nat := 0

/-- The exit code of a command that ended early. -/
def failureCode : Nat := 1

/-- The exit code of a command without a valid program, and of one that was not understood. -/
def noResultCode : Nat := 2

/-- The engine that settings name. -/
def engineOf (s : Settings) : EngineCall :=
  ⟨s.validation.engineBinary, s.validation.timeout, s.performance.sampleInterval⟩

/-- The client of some settings, with the key from the environment. -/
def clientOf (s : Settings.Provider) : Attempt Client :=
  orFailure
    (.ask (.environment s.keyVariable) fun key =>
      .done (Client.withKey s.baseUrl s.keyVariable key))

/-- How long a provider may take to answer: a second at the least. -/
def requestTimeout (s : Settings.Provider) : Duration :=
  .ofSeconds (max s.requestTimeoutSeconds 1)

/-- One request of a client; one that cannot be made at all is not sent. -/
def sendRequest (client : Client) (timeout : Duration) (request : Request) :
    Course (Except Error Completion) :=
  match client.unsendable? with
  | some reason => .done (Completion.ofReply request.model (.unsendable reason))
  | none =>
    .ask (.send client request.body.write timeout) fun reply =>
      .done (Completion.ofReply request.model reply)

/-- The answer to what a completion asks. -/
def answerGeneration (client : Client) (timeout : Duration) :
    (q : Generation.Ask) → Course (Generation.Answer Float q)
  | .complete request => sendRequest client timeout request
  | .wait time => .ask (.wait time) .done

/-- A dialogue with a provider, led with a client. -/
def leadGeneration {α : Type} (client : Client) (timeout : Duration)
    (d : Dialogue Generation.Ask (Generation.Answer Float) α) : Course α :=
  (d.through
    (fun q (_ : Unit) => (answerGeneration client timeout q).map fun answer => (answer, ()))
    ()).map (·.1)

/-- What a selection is led with. -/
structure Equipment where
  client : Client
  timeout : Duration
  generator : Generator
  validator : Validator
  scorer : Score.Scorer
  engine : EngineCall

/-- What a selection changes: the sessions of the generators, the learned rules, what was spent. -/
structure Workspace where
  sessions : List Session
  store : Fix.Store := .empty
  ledger : Ledger

/-- The answer to a question of a selection. -/
def Equipment.answer (e : Equipment) : (q : Selection.Ask Float) → Workspace →
    Course (Selection.Answer Float q × Workspace)
  | .loop place (.produce task), w =>
    let session := w.sessions[place]?.getD e.generator.session
    (leadGeneration e.client e.timeout (e.generator.perform task session)).map
      fun (result, session) => (result, { w with sessions := w.sessions.set place session })
  | .loop _ (.validate code samples), w =>
    (e.engine.lead (e.validator.validate code (some samples))).map fun verdict => (verdict, w)
  | .loop _ (.fix code message), w =>
    let (fixed, store) := w.store.repair code message
    .done (fixed.map (·.code), { w with store })
  | .loop _ (.record usage), w => .done ((), { w with ledger := w.ledger.record usage })
  | .score code samples, w =>
    (e.engine.lead (e.scorer.score code samples)).map fun result => (result, w)
  | .spent, w => .done (w.ledger.totalCost, w)

/-- The constants of this machine. -/
def measureMachine (s : Settings) : Course Score.Calibration :=
  .ask (.rate s.performance.benchmarkIterations) fun rate =>
    (engineOf s).lead
      (Score.Calibration.measure rate s.performance.baselineRate s.validation.runnerEnabled)

/-- The line about the machine, behind its first words. -/
def calibrationText (c : Score.Calibration) : String :=
  " multiplier " ++ Decimal.fixed 2 c.multiplier ++ ", engine startup " ++
    Decimal.fixed 2 c.startup.toFloat ++ "s\n"

/-- A text from a file that may not be named. -/
def readOptional (path : Option String) : Attempt (Option String) :=
  match path with
  | none => succeed none
  | some path =>
    (readText ("Failed to read " ++ path) path).andThen fun text => succeed (some text)

/-- Selects among strategies with the machine measured. -/
def selectWith (s : Settings) (client : Client) (samples : List Sample) (baseline : Option String)
    (strategies : List Strategy) (ledger : Ledger) : Attempt Selection.Outcome :=
  (complain "  Calibrating...").andThen fun _ =>
  (attempt (measureMachine s)).andThen fun calibration =>
  (complain (calibrationText calibration)).andThen fun _ =>
  (attempt (makeValidator s.validation)).andThen fun validator =>
    let generator : Generator := ⟨s.provider.models, s.generation, {}⟩
    let equipment : Equipment :=
      ⟨client, requestTimeout s.provider, generator, validator,
        ⟨calibration, s.performance, s.validation.runnerEnabled⟩, engineOf s⟩
    let assignment : Selection.Assignment :=
      ⟨s.generation, s.performance.goal, strategies, samples, baseline⟩
    let workspace : Workspace := { sessions := strategies.map fun _ => generator.session, ledger }
    orFailure
      (((Selection.run assignment).through equipment.answer workspace).map (·.1))

/-- Tells of files that were written. -/
def tellWritten : List String → Attempt Unit
  | [] => succeed ()
  | path :: paths => (complain ("  + Wrote " ++ path ++ "\n")).andThen fun _ => tellWritten paths

/-- Generates programs and keeps the best. -/
def generate (s : Settings) (samplesPath : String) (baselinePath : Option String) (out : String)
    (candidates : Option Nat) : Attempt Nat :=
  (requireSamples samplesPath).andThen fun samples =>
  (readOptional baselinePath).andThen fun baseline =>
  (complain ("  Loaded " ++ Nat.repr samples.length ++ " sample events\n")).andThen fun _ =>
  (clientOf s.provider).andThen fun client =>
    let planner : Generator := ⟨s.provider.models, s.generation, {}⟩
    let count := max (candidates.getD s.generation.candidateCount) 1
    let plan := leadGeneration client (requestTimeout s.provider) (planner.plan samples count)
    (orFailure plan).andThen fun (strategies, usage) =>
    (complain
      ("  Strategies: " ++ Text.joinWith ", " (strategies.map (·.name)) ++ "\n")).andThen fun _ =>
    (selectWith s client samples baseline strategies (({} : Ledger).record usage)).andThen
      fun outcome =>
    (say (outcomeText outcome)).andThen fun _ =>
    (writeOutcome out outcome).andThen fun paths =>
    (tellWritten paths).andThen fun _ =>
      succeed (if outcome.winner.isSome then successCode else noResultCode)

def check (s : Settings) (program : String) (samplesPath : Option String) : Attempt Nat :=
  (readText ("Failed to read " ++ program) program).andThen fun code =>
  (match samplesPath with
    | none => succeed none
    | some path => (requireSamples path).andThen fun samples => succeed (some samples)).andThen
      fun samples =>
  (attempt (makeValidator s.validation)).andThen fun validator =>
  (orFailure ((engineOf s).lead (validator.validate code samples))).andThen fun verdict =>
    let e := Score.estimate code s.performance.breakpoints
    (say ("estimated events/CPU%: " ++ Decimal.fixed 0 e.rate ++ " (" ++ e.tier.name ++ ")\n" ++
      (if verdict.passed then "valid\n" else "invalid: " ++ verdict.message ++ "\n"))).andThen
        fun _ => succeed (if verdict.passed then successCode else noResultCode)

def calibrate (s : Settings) : Attempt Nat :=
  (attempt (measureMachine s)).andThen fun c =>
    let data := Json.obj
      [("cpu_multiplier", .float c.multiplier), ("engine_startup", .float c.startup.toFloat)]
    (say (data.pretty ++ "\n")).andThen fun _ => succeed successCode

def perform (s : Settings) : Action → Attempt Nat
  | .generate samples baseline out candidates => generate s samples baseline out candidates
  | .check program samples => check s program samples
  | .calibrate => calibrate s

/-- A whole run of the program with its arguments; the exit code. -/
def invoke (arguments : List String) : Course Nat :=
  match Invocation.read arguments with
  | .version => .ask (.say versionText) fun _ => .done successCode
  | .help => .ask (.say usageText) fun _ => .done successCode
  | .unclear => .ask (.complain usageText) fun _ => .done noResultCode
  | .run path action =>
    (loadSettings path).bind fun settings =>
      (perform settings action).bind fun result =>
        match result with
        | .ok code => .done code
        | .error complaint =>
          .ask (.complain ("  ! " ++ complaint.text ++ "\n")) fun _ => .done failureCode

end RemapSynth.Command
