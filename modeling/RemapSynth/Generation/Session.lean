/-
A session of one generator: first programs and repairs go through one
bounded conversation, so that the model sees what it tried before.
-/
import RemapSynth.Generation.Completion
import RemapSynth.Generation.Filling
import RemapSynth.Generation.Prompt
import RemapSynth.Chat.Conversation
import RemapSynth.Diagnosis
import RemapSynth.Settings.Basic

namespace RemapSynth.Generation

open Chat

/-- A piece of work for a generator. -/
inductive Task
  | generate (samples : List Sample) (strategy : Option Strategy) (baseline : Option String)
  | repair (code message : String) (samples : Option (List Sample)) (context : Option String)

/-- A program and what it cost. -/
structure Generated (Cost : Type := Float) where
  code : String
  usage : Option (Usage Cost)
  deriving Repr

/-- A generator: its models, its settings, and how it tries again. -/
structure Generator where
  models : List String
  settings : Settings.Generation
  retry : RetryPolicy

/-- What a generator remembers. -/
structure Session (Cost : Type := Float) where
  conversation : Conversation
  /-- How many programs it has delivered. -/
  iterations : Nat := 0
  usage : Option (Usage Cost) := none
  /-- The kinds of failure it has repaired, in order of their first repair. -/
  diagnoses : List Diagnosis := []
  deriving Repr

variable {Cost : Type}

/-- The session of a generator that has done nothing yet. -/
def Generator.session (g : Generator) : Session Cost where
  conversation := (Conversation.new g.settings.historyTurns).instruct Prompt.instruction

def Task.prompt : Task → String
  | generate samples strategy baseline => Prompt.generation samples strategy baseline
  | repair code message samples context => Prompt.repair code message samples context

/-- The kind of failure that a task is to repair. -/
def Task.diagnosis? : Task → Option Diagnosis
  | generate _ _ _ => none
  | repair _ message _ _ => some (.ofMessage message)

/-- Why a task cannot even be asked: there is nothing to generate from. -/
def Task.fault? : Task → Option Failure
  | generate [] _ _ => some (.configuration "generation needs at least one sample")
  | generate (_ :: _) _ _ | repair _ _ _ _ => none

/-- The temperature for a task. -/
def Generator.temperature (g : Generator) : Task → Float32
  | .generate _ _ _ => g.settings.generationTemperature
  | .repair _ _ _ _ => g.settings.repairTemperature

/-- A completion as this generator asks for it. -/
def Generator.setting (g : Generator) (messages : List Message) (temperature : Float32) :
    Setting where
  models := g.models
  retry := g.retry
  messages := messages
  maxTokens := g.settings.maxTokens
  temperature := temperature

variable [Add Cost]

/-- The session after a task was done: one more turn, and what it cost. -/
def Session.record (s : Session Cost) (task : Task) (generated : Generated Cost) :
    Session Cost where
  conversation := s.conversation.push ⟨task.prompt, Prompt.fenced generated.code⟩
  iterations := s.iterations + 1
  usage := Usage.merge s.usage generated.usage
  diagnoses :=
    match task.diagnosis? with
    | some d => if s.diagnoses.contains d then s.diagnoses else s.diagnoses ++ [d]
    | none => s.diagnoses

/-- Does a task: a program, or why there is none; a task that fails leaves the session as it
was. -/
def Generator.perform (g : Generator) (task : Task) (s : Session Cost) :
    Dialogue Ask (Answer Cost) (Except Failure (Generated Cost) × Session Cost) :=
  match task.fault? with
  | some failure => .done (.error failure, s)
  | none =>
    (complete (g.setting (s.conversation.messagesFor task.prompt) (g.temperature task))).map
      fun result =>
        match result with
        | .error failure => (.error failure, s)
        | .ok (text, usage) =>
          match Prompt.program? text with
          | none => (.error (.generation "response contained no VRL code"), s)
          | some code => (.ok ⟨code, usage⟩, s.record task ⟨code, usage⟩)

/-- Asks for `count` strategies. An answer that cannot be used is made up for by built-in
strategies; only a fatal failure is one. -/
def Generator.plan (g : Generator) (samples : List Sample) (count : Nat) :
    Dialogue Ask (Answer Cost) (Except Failure (List Strategy × Option (Usage Cost))) :=
  let messages := [.system Prompt.instruction, .user (Prompt.plan samples count)]
  (complete (g.setting messages g.settings.generationTemperature)).map fun result =>
    match result with
    | .ok (text, usage) => .ok (Strategy.fillTo (Strategy.ofAnswer text) count, usage)
    | .error failure =>
      if failure.isFatal then .error failure else .ok (Strategy.fillTo [] count, none)

/-- What a session has come to. -/
structure Summary (Cost : Type := Float) where
  iterations : Nat
  usage : Option (Usage Cost)
  totalCost : Cost
  messages : Nat
  diagnoses : List Diagnosis
  deriving Repr

def Session.summary [Zero Cost] (s : Session Cost) : Summary Cost where
  iterations := s.iterations
  usage := s.usage
  totalCost := Usage.costOf s.usage
  messages := s.conversation.size
  diagnoses := s.diagnoses

end RemapSynth.Generation
