/-
One logical completion: a model is asked until its answer can be used or
trying again makes no sense. Each category of error has a budget of its own
for retries, and an answer with nothing in it moves on to the next model.
-/
import RemapSynth.Chat.Exchange
import RemapSynth.Chat.Retry
import RemapSynth.Dialogue
import RemapSynth.Failure

namespace RemapSynth.Generation

open Chat

/-- What is asked on the way to a completion. -/
inductive Ask
  | complete (request : Request)
  | wait (time : Duration)

abbrev Answer (Cost : Type) : Ask → Type
  | .complete _ => Except Error (Completion Cost)
  | .wait _ => Unit

/-- The failure that an error which is never tried again leads to. -/
def terminalFailure (e : Error) : Failure :=
  match e.category with
  | .generation => .generation e.message
  | _ => .infrastructure e.text

/-- The failure that an error leads to once all its retries are spent. -/
def exhaustedFailure (e : Error) (retries : Nat) : Failure :=
  let spent := " (after " ++ Nat.repr retries ++ " retries)"
  match e.category with
  | .emptyResponse => .generation (e.message ++ spent)
  | _ => .infrastructure (e.text ++ spent)

/-- How many errors of each category that is tried again there have been. -/
structure Attempts where
  network : Nat := 0
  api : Nat := 0
  emptyResponse : Nat := 0
  deriving Repr, DecidableEq

namespace Attempts

/-- The errors of one category. -/
def of (a : Attempts) : Category → Nat
  | .network => a.network
  | .api => a.api
  | .emptyResponse => a.emptyResponse
  | .generation | .infrastructure => 0

/-- One more error of a category. -/
def bump (a : Attempts) : Category → Attempts
  | .network => { a with network := a.network + 1 }
  | .api => { a with api := a.api + 1 }
  | .emptyResponse => { a with emptyResponse := a.emptyResponse + 1 }
  | .generation | .infrastructure => a

/-- How many retries are left in all. -/
def left (a : Attempts) (p : RetryPolicy) : Nat :=
  (p.network.maxRetries - a.network) + (p.api.maxRetries - a.api) +
    (p.emptyResponse.maxRetries - a.emptyResponse)

/-- An error whose category has retries left uses one of them up. -/
theorem left_bump_lt {a : Attempts} {p : RetryPolicy} {c : Category} {r : RetryRule}
    (hr : p.ruleFor c = some r) (h : a.of c + 1 ≤ r.maxRetries) :
    (a.bump c).left p < a.left p := by
  cases c <;> simp_all [RetryPolicy.ruleFor, of, bump, left] <;> subst hr <;> omega

end Attempts

/-- What a completion needs to know: the chain of models, the retries, and what is asked. -/
structure Setting where
  models : List String
  retry : RetryPolicy
  messages : List Message
  maxTokens : Nat
  temperature : Float32

/-- Where a completion stands: the model that is next, the errors so far, and the usage of every
answer so far, usable or not. -/
structure Progress (Cost : Type) where
  model : Nat := 0
  attempts : Attempts := {}
  usage : Option (Usage Cost) := none

variable {Cost : Type} [Add Cost]

/-- What an answer comes to: the usage it adds, and its text or what is wrong with it. -/
def judge (answer : Except Error (Completion Cost)) : Option (Usage Cost) × Except Error String :=
  match answer with
  | .ok completion =>
    (completion.usage,
      match contentFault? completion.text with
      | none => .ok completion.text
      | some e => .error e)
  | .error e => (none, .error e)

/-- The model that is asked after an error. -/
def modelAfter (models : List String) (model : Nat) (e : Error) : Nat :=
  if e.category = .emptyResponse then (nextModel? models model).getD model else model

/-- Goes on with `rest` after a wait; no time is waited for nothing. -/
def waitThen {α : Type} (time : Duration) (rest : Dialogue Ask (Answer Cost) α) :
    Dialogue Ask (Answer Cost) α :=
  if time.nanos = 0 then rest else .ask (.wait time) fun _ => rest

/-- The completion from where it stands: its text with the usage of all that was asked for it. -/
def completeFrom (s : Setting) (p : Progress Cost) :
    Dialogue Ask (Answer Cost) (Except Failure (String × Option (Usage Cost))) :=
  match s.models[p.model]? with
  | none => .done (.error (.configuration "no LLM models configured"))
  | some model =>
    .ask (.complete ⟨model, s.messages, s.maxTokens, s.temperature⟩) fun answer =>
      let (spent, result) := judge answer
      let usage := Usage.merge p.usage spent
      match result with
      | .ok text => .done (.ok (text, usage))
      | .error e =>
        match hr : s.retry.ruleFor e.category with
        | none => .done (.error (terminalFailure e))
        | some rule =>
          if _h : p.attempts.of e.category + 1 ≤ rule.maxRetries then
            waitThen (rule.delay (p.attempts.of e.category + 1) e.retryAfter)
              (completeFrom s
                { model := modelAfter s.models p.model e
                  attempts := p.attempts.bump e.category
                  usage })
          else .done (.error (exhaustedFailure e rule.maxRetries))
termination_by p.attempts.left s.retry
decreasing_by exact Attempts.left_bump_lt hr _h

def complete (s : Setting) :
    Dialogue Ask (Answer Cost) (Except Failure (String × Option (Usage Cost))) :=
  completeFrom s {}

end RemapSynth.Generation
