/-
What a command asks of the machine it runs on: files, the environment, the
two output streams, the clock, the network, and processes of the engine.
-/
import RemapSynth.Chat.Exchange
import RemapSynth.Engine.Ask

namespace RemapSynth.Command

inductive Ask
  | readFile (path : String)
  | writeFile (path text : String)
  | rename (source target : String)
  /-- Makes a directory and those it lies in; one that is there already is fine. -/
  | createDirectory (path : String)
  | environment (name : String)
  /-- Text for the output stream. -/
  | say (text : String)
  /-- Text for the error stream. -/
  | complain (text : String)
  /-- Operations a second, from so many rounds of a benchmark. -/
  | rate (rounds : Nat)
  | now
  | wait (time : Duration)
  | send (client : Chat.Client) (body : String) (timeout : Duration)
  | compile (launch : Engine.Launch) (timeout : Duration)
  /-- A run on `expected` events, looked at every `interval`. -/
  | observe (launch : Engine.Launch) (expected : Nat) (budget interval : Duration)

/-- The answers of the machine; where a file cannot be used, in its own words why. -/
abbrev Answer : Ask → Type
  | .readFile _ => Except String String
  | .writeFile _ _ | .rename _ _ | .createDirectory _ => Except String Unit
  | .environment _ => Option String
  | .say _ | .complain _ | .wait _ => Unit
  | .rate _ => Float
  | .now => String
  | .send _ _ _ => Chat.Reply
  | .compile _ _ => Engine.Started Engine.Output
  | .observe _ _ _ _ => Engine.Started Engine.Observation

/-- What a command does. -/
abbrev Course (α : Type) : Type := Dialogue Ask Answer α

/-- Why a command ended early: what it wanted, and the causes behind it. -/
structure Complaint where
  message : String
  causes : List String := []
  deriving Repr, DecidableEq

def Complaint.text (c : Complaint) : String := Text.joinWith ": " (c.message :: c.causes)

def Complaint.ofFailure (failure : Failure) : Complaint := ⟨failure.message, []⟩

/-- What a command comes to, unless it ends early. -/
abbrev Attempt (α : Type) : Type := Course (Except Complaint α)

/-- Goes on with what an attempt comes to. -/
def Attempt.andThen {α β : Type} (a : Attempt α) (next : α → Attempt β) : Attempt β :=
  Dialogue.bind a fun result =>
    match result with
    | .error complaint => .done (.error complaint)
    | .ok value => next value

def succeed {α : Type} (value : α) : Attempt α := .done (.ok value)

def giveUp {α : Type} (complaint : Complaint) : Attempt α := .done (.error complaint)

/-- An attempt that cannot fail. -/
def attempt {α : Type} (c : Course α) : Attempt α := c.map .ok

/-- Something that may end in a failure. -/
def orFailure {α : Type} (c : Course (Except Failure α)) : Attempt α :=
  c.map fun result =>
    match result with
    | .ok value => .ok value
    | .error failure => .error (.ofFailure failure)

def say (text : String) : Attempt Unit := .ask (.say text) fun _ => succeed ()

def complain (text : String) : Attempt Unit := .ask (.complain text) fun _ => succeed ()

/-- The text of a file, under a message for when it cannot be read. -/
def readText (message path : String) : Attempt String :=
  .ask (.readFile path) fun answer =>
    match answer with
    | .ok text => succeed text
    | .error cause => giveUp ⟨message, [cause]⟩

/-- An engine to be called by name, with the time it may take, and the time between two looks at
it. -/
structure EngineCall where
  binary : String
  timeout : Duration
  interval : Duration

/-- A run of a program on samples; without samples no engine is started. -/
def EngineCall.run (e : EngineCall) (code : String) (samples : List Sample) (budget : Duration) :
    Course (Except Failure Score.MeasuredRun) :=
  if samples.isEmpty then .done (.ok Engine.emptyRun)
  else
    .ask (.observe (Engine.runLaunch e.binary code samples) samples.length budget e.interval)
      fun started => .done (Engine.measuredOfStarted e.binary samples.length started)

/-- The answer to a question to an engine, from a process of it. -/
def EngineCall.answer (e : EngineCall) : (q : Engine.Ask) → Course (Engine.Answer q)
  | .compile code =>
    .ask (.compile (Engine.compileLaunch e.binary code) e.timeout) fun started =>
      .done (Engine.Compilation.ofStarted e.binary e.timeout started)
  | .execute code samples =>
    (e.run code samples e.timeout).map fun result => result.map Engine.RunOutput.ofMeasured
  | .measure code samples budget => e.run code samples budget

/-- A dialogue with an engine, led with processes of it. -/
def EngineCall.lead {α : Type} (e : EngineCall) (d : Dialogue Engine.Ask Engine.Answer α) :
    Course α :=
  (d.through (fun q (_ : Unit) => (e.answer q).map fun answer => (answer, ())) ()).map (·.1)

end RemapSynth.Command
