/-
What a completion does with one answer. An answer brings a usage and has a
fault or none; a completion goes on only after a fault of a category that has
retries left, and `completeFrom_eq` says so in one equation. `Completes` lists
the ways a whole completion can go; statements about completions are made by
induction on it (`completes_of_history`).
-/
import RemapSynth.Generation.Completion

namespace RemapSynth.Generation

open Chat Dialogue

variable {Cost : Type}

/-- A question on the way to a completion together with the answer it got. -/
abbrev Call (Cost : Type) : Type := Exchange Ask (Answer Cost)

/-! ## What can be seen of an answer -/

/-- What is wrong with an answer: the error of the provider, or a fault of the content. -/
def fault? : Except Error (Completion Cost) → Option Error
  | .ok completion => contentFault? completion.text
  | .error e => some e

/-- The text of an answer; empty for an error. -/
def textOf : Except Error (Completion Cost) → String
  | .ok completion => completion.text
  | .error _ => ""

/-- The usage that an answer brings; an error brings none. -/
def usageOf : Except Error (Completion Cost) → Option (Usage Cost)
  | .ok completion => completion.usage
  | .error _ => none

theorem exists_completion_of_fault?_eq_none {answer : Except Error (Completion Cost)}
    (h : fault? answer = none) : ∃ completion, answer = .ok completion := by
  cases answer with
  | ok completion => exact ⟨completion, rfl⟩
  | error e => cases h

theorem judge_eq (answer : Except Error (Completion Cost)) :
    judge answer = (usageOf answer,
      match fault? answer with
      | none => .ok (textOf answer)
      | some e => .error e) := by
  cases answer with
  | ok completion =>
    cases hf : contentFault? completion.text with
    | none => simp only [judge, usageOf, textOf, fault?, hf]
    | some e => simp only [judge, usageOf, fault?, hf]
  | error e => rfl

/-! ## What a completion does with it -/

variable [Add Cost] {s : Setting} {p : Progress Cost}

/-- Where a completion stands after one more answer with a fault. -/
def Progress.after (p : Progress Cost) (models : List String)
    (answer : Except Error (Completion Cost)) (e : Error) : Progress Cost where
  model := modelAfter models p.model e
  attempts := p.attempts.bump e.category
  usage := Usage.merge p.usage (usageOf answer)

/-- What follows an answer. -/
def respond (s : Setting) (p : Progress Cost) (answer : Except Error (Completion Cost)) :
    Dialogue Ask (Answer Cost) (Except Failure (String × Option (Usage Cost))) :=
  match fault? answer with
  | none => .done (.ok (textOf answer, Usage.merge p.usage (usageOf answer)))
  | some e =>
    match s.retry.ruleFor e.category with
    | none => .done (.error (terminalFailure e))
    | some rule =>
      if p.attempts.of e.category + 1 ≤ rule.maxRetries then
        waitThen (rule.delay (p.attempts.of e.category + 1) e.retryAfter)
          (completeFrom s (p.after s.models answer e))
      else .done (.error (exhaustedFailure e rule.maxRetries))

/-- **One request, then what its answer calls for.** -/
theorem completeFrom_eq {model : String} (hm : s.models[p.model]? = some model) :
    completeFrom s p =
      .ask (.complete ⟨model, s.messages, s.maxTokens, s.temperature⟩) (respond s p) := by
  rw [completeFrom, hm]
  simp only [ask.injEq, heq_eq_eq, true_and]
  funext answer
  rw [judge_eq, respond]
  cases hf : fault? answer with
  | none => rfl
  | some e =>
    dsimp only
    cases hr : s.retry.ruleFor e.category with
    | none => split <;> simp_all
    | some rule => split <;> simp_all [Progress.after]

/-- Every way a completion can go from where it stands: what is asked, and what comes of it. -/
inductive Completes (s : Setting) : Progress Cost → List (Call Cost) →
    Except Failure (String × Option (Usage Cost)) → Prop
  | unconfigured {p : Progress Cost} (failure : Failure) : Completes s p [] (.error failure)
  | answered {p : Progress Cost} (model : String) (answer : Except Error (Completion Cost))
      (h : fault? answer = none) :
    Completes s p [⟨.complete ⟨model, s.messages, s.maxTokens, s.temperature⟩, answer⟩]
      (.ok (textOf answer, Usage.merge p.usage (usageOf answer)))
  | failed {p : Progress Cost} (model : String) (answer : Except Error (Completion Cost)) (e : Error)
      (h : fault? answer = some e) (failure : Failure) :
    Completes s p [⟨.complete ⟨model, s.messages, s.maxTokens, s.temperature⟩, answer⟩]
      (.error failure)
  | again {p : Progress Cost} {more : List (Call Cost)}
      {result : Except Failure (String × Option (Usage Cost))} (model : String)
      (answer : Except Error (Completion Cost)) (e : Error) (h : fault? answer = some e)
      (hmore : Completes s (p.after s.models answer e) more result) :
    Completes s p (⟨.complete ⟨model, s.messages, s.maxTokens, s.temperature⟩, answer⟩ :: more)
      result
  | waited {p : Progress Cost} {more : List (Call Cost)}
      {result : Except Failure (String × Option (Usage Cost))} (model : String)
      (answer : Except Error (Completion Cost)) (e : Error) (h : fault? answer = some e)
      (time : Duration) (hmore : Completes s (p.after s.models answer e) more result) :
    Completes s p
      (⟨.complete ⟨model, s.messages, s.maxTokens, s.temperature⟩, answer⟩ :: ⟨.wait time, ()⟩ :: more)
      result

/-- **A completion goes one of these ways.** -/
theorem completes_of_history {calls : List (Call Cost)}
    {result : Except Failure (String × Option (Usage Cost))}
    (h : History (completeFrom s p) calls result) : Completes s p calls result := by
  induction hleft : p.attempts.left s.retry using Nat.strongRecOn generalizing p calls with
  | _ left ih =>
  cases hmodel : s.models[p.model]? with
  | none =>
    rw [completeFrom, hmodel, history_done] at h
    obtain ⟨rfl, rfl⟩ := h
    exact .unconfigured _
  | some model =>
    rw [completeFrom_eq hmodel, history_ask] at h
    obtain ⟨answer, rest, rfl, h⟩ := h
    rw [respond] at h
    cases hf : fault? answer with
    | none =>
      simp only [hf, history_done] at h
      obtain ⟨rfl, rfl⟩ := h
      exact .answered model answer hf
    | some e =>
      rw [hf] at h
      cases hr : s.retry.ruleFor e.category with
      | none =>
        simp only [hr, history_done] at h
        obtain ⟨rfl, rfl⟩ := h
        exact .failed model answer e hf _
      | some rule =>
        simp only [hr] at h
        split at h
        next hle =>
          have hlower : (p.after s.models answer e).attempts.left s.retry < left :=
            hleft ▸ Attempts.left_bump_lt hr hle
          rw [waitThen] at h
          split at h
          · exact .again model answer e hf (ih _ hlower h rfl)
          · obtain ⟨reply, more, rfl, hmore⟩ := history_ask.1 h
            exact .waited model answer e hf _ (ih _ hlower hmore rfl)
        next =>
          rw [history_done] at h
          obtain ⟨rfl, rfl⟩ := h
          exact .failed model answer e hf _

/-! ## Two answers -/

/-- An answer that is long enough and reports no error. -/
def goodAnswer : Completion Nat :=
  ⟨".a = parse_json!(.message)", some { totalTokens := 7, cost := some 3 }, "small"⟩

/-- An answer with nothing in it, which costs something all the same. -/
def emptyAnswer : Completion Nat := ⟨"", some { totalTokens := 2, cost := some 5 }, "large"⟩

theorem fault?_goodAnswer : fault? (.ok goodAnswer) = none := by decide

def emptyFault : Error where
  category := .emptyResponse
  message := "response too short (0 chars)"

theorem fault?_emptyAnswer : fault? (.ok emptyAnswer) = some emptyFault := by decide

end RemapSynth.Generation
