/-
The collaborators of repair loops and selections in a rehearsal: generators
and validators that follow a script, or real ones over a scripted provider
and a scripted engine, with one store of rules and one ledger among them.
-/
import RemapSynth.Rehearsal.Provider
import RemapSynth.Rehearsal.Engine
import RemapSynth.Selection.Run

namespace RemapSynth.Rehearsal

open Chat Generation

/-- A generator of a rehearsal. -/
inductive Producer
  /-- Programs in line for each kind of task. -/
  | scripted (generate repair : Queue (Except Failure Generated)) (calls : List Task)
  /-- A generator that asks a scripted provider. -/
  | asking (generator : Generator) (session : Session) (provider : Provider)

namespace Producer

def ofScript (generate repair : List (Except Failure Generated))
    (fallback : Option (Except Failure Generated)) : Producer :=
  .scripted ⟨generate, fallback⟩ ⟨repair, fallback⟩ []

def ofProvider (generator : Generator) (script : List ProviderLine) : Producer :=
  .asking generator generator.session { script }

/-- What a script without an answer leads to. -/
def unanswered : Except Failure Generated := .error (.generation scriptEnd.message)

/-- The program for a task, and the generator after it. -/
def answer (task : Task) : Producer → Except Failure Generated × Producer
  | .scripted generate repair calls =>
    let calls := calls ++ [task]
    match task with
    | .generate _ _ _ =>
      let (line, generate) := generate.take?
      (line.getD unanswered, .scripted generate repair calls)
    | .repair _ _ _ _ =>
      let (line, repair) := repair.take?
      (line.getD unanswered, .scripted generate repair calls)
  | .asking generator session provider =>
    let ((result, session), _, provider) :=
      (generator.perform task session).run Provider.answer provider
    (result, .asking generator session provider)

end Producer

/-- A validator of a rehearsal. -/
inductive Judge
  /-- Verdicts by what the program holds, else in line. -/
  | scripted (cues : List (Cue (Except Failure Verdict)))
      (verdicts : Queue (Except Failure Verdict))
  /-- A validator that asks a scripted engine. -/
  | asking (validator : Validator) (engine : EngineScript)

/-- A validator and what it has seen. -/
structure Bench where
  judge : Judge
  codes : List String := []
  log : EngineLog := {}

/-- The verdict on a program, and the validator after it. -/
def Bench.answer (b : Bench) (code : String) (samples : Option (List Sample)) :
    Except Failure Verdict × Bench :=
  match b.judge with
  | .scripted cues verdicts =>
    let b := { b with codes := b.codes ++ [code] }
    match cueFor? cues code with
    | some verdict => (verdict, b)
    | none =>
      let (verdict, verdicts) := verdicts.take?
      (verdict.getD (.ok .pass), { b with judge := .scripted cues verdicts })
  | .asking validator engine =>
    let (verdict, _, log) := (validator.validate code samples).run engine.answer b.log
    (verdict, { b with log })

/-- All collaborators of repair loops but the generators. -/
structure Stage where
  bench : Bench
  store : Fix.Store := .empty
  ledger : Ledger := {}

/-- The answer to a question of a repair loop, and the collaborators after it. -/
def answerLoop : (q : Repair.Ask Float) → Producer × Stage →
    Repair.Answer Float q × Producer × Stage
  | .produce task, (producer, stage) =>
    let (result, producer) := producer.answer task
    (result, producer, stage)
  | .validate code samples, (producer, stage) =>
    let (verdict, bench) := stage.bench.answer code (some samples)
    (verdict, producer, { stage with bench })
  | .fix code message, (producer, stage) =>
    let (fixed, store) := stage.store.repair code message
    (fixed.map (·.code), producer, { stage with store })
  | .record usage, (producer, stage) =>
    ((), producer, { stage with ledger := stage.ledger.record usage })

/-- The collaborators of a selection: a generator for each strategy, by the strategy's name, and a
scorer. -/
structure Cast where
  producers : List (String × Producer)
  stage : Stage
  scorer : Score.Scorer
  engine : EngineScript
  /-- What the scorer's engine was asked. -/
  log : EngineLog := {}

/-- The place of the generator that works for the strategy at a place: of generators for one name,
the last. -/
def Cast.placeFor (cast : Cast) (place : Nat) : Nat :=
  let name := cast.producers[place]?.map (·.1)
  let same := (List.range cast.producers.length).filter fun i =>
    cast.producers[i]?.map (·.1) == name
  same.getLast?.getD place

/-- The answer to a question of a selection, and the collaborators after it. -/
def answerSelection : (q : Selection.Ask Float) → Cast → Selection.Answer Float q × Cast
  | .loop place question, cast =>
    let place := cast.placeFor place
    let (name, producer) := cast.producers[place]?.getD ("", .ofScript [] [] none)
    let (reply, producer, stage) := answerLoop question (producer, cast.stage)
    (reply, { cast with producers := cast.producers.set place (name, producer), stage })
  | .score code samples, cast =>
    let (result, _, log) := (cast.scorer.score code samples).run cast.engine.answer cast.log
    (result, { cast with log })
  | .spent, cast => (cast.stage.ledger.totalCost, cast)

end RemapSynth.Rehearsal
