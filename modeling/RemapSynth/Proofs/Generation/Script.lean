/-
A completion against a script: what a provider answers to the first request,
the second, and so on without end. The script alone says where the completion
stops (`Ending`): at the first answer that is good, that no retry can mend, or
that is one fault too many of its category.

What a completion remembers after `k` answers is a function of those answers
(`Script.progress`); the retries that are left, all categories together, are
what bounds the loop.
-/
import RemapSynth.Proofs.Chat.Usage
import RemapSynth.Proofs.Generation.Completion

namespace RemapSynth.Generation

open Chat Dialogue

variable {Cost : Type}

/-- The answers of a provider, one to each request. -/
abbrev Script (Cost : Type) : Type := Nat → Except Error (Completion Cost)

namespace Script

/-- Answers the next request by the script; the state is how many were answered before. -/
def provider (script : Script Cost) : (q : Ask) → Nat → Answer Cost q × Nat
  | .complete _, k => (script k, k + 1)
  | .wait _, k => ((), k)

/-- How many of the first `k` answers have a fault of a category. -/
def faults (script : Script Cost) (c : Category) (k : Nat) : Nat :=
  (List.range k).countP fun j => (fault? (script j)).any (·.category = c)

/-- The usage of the first `k` answers, whether they were good or not. -/
def usage [Add Cost] (script : Script Cost) (k : Nat) : Option (Usage Cost) :=
  Usage.mergeAll ((List.range k).map fun j => usageOf (script j))

end Script

/-- `Ending policy script n result`: a completion that is still going after `n` answers ends with
the next one, and `result` is what it comes to. -/
inductive Ending [Add Cost] (policy : RetryPolicy) (script : Script Cost) (n : Nat) :
    Except Failure (String × Option (Usage Cost)) → Prop
  /-- The answer is good. -/
  | accepted (completion : Completion Cost) (h : script n = .ok completion)
      (hgood : contentFault? completion.text = none) :
    Ending policy script n (.ok (completion.text, script.usage (n + 1)))
  /-- The model has answered, with nothing that can be used. -/
  | unusable (e : Error) (h : fault? (script n) = some e) (hc : e.category = .generation) :
    Ending policy script n (.error (.generation e.message))
  /-- The provider cannot be used. -/
  | refused (e : Error) (h : fault? (script n) = some e) (hc : e.category = .infrastructure) :
    Ending policy script n (.error (.infrastructure e.text))
  /-- There was one empty answer more than may be tried again. -/
  | emptied (e : Error) (h : fault? (script n) = some e) (hc : e.category = .emptyResponse)
      (hn : script.faults .emptyResponse (n + 1) = policy.emptyResponse.maxRetries + 1) :
    Ending policy script n (.error (.generation
      (e.message ++ " (after " ++ Nat.repr policy.emptyResponse.maxRetries ++ " retries)")))
  /-- There was one fault of the network more than may be tried again. -/
  | unconnected (e : Error) (h : fault? (script n) = some e) (hc : e.category = .network)
      (hn : script.faults .network (n + 1) = policy.network.maxRetries + 1) :
    Ending policy script n (.error (.infrastructure
      (e.text ++ " (after " ++ Nat.repr policy.network.maxRetries ++ " retries)")))
  /-- The provider was busy or broken once more than may be tried again. -/
  | overloaded (e : Error) (h : fault? (script n) = some e) (hc : e.category = .api)
      (hn : script.faults .api (n + 1) = policy.api.maxRetries + 1) :
    Ending policy script n (.error (.infrastructure
      (e.text ++ " (after " ++ Nat.repr policy.api.maxRetries ++ " retries)")))

def Call.request? : Call Cost → Option Request
  | ⟨.complete request, _⟩ => some request
  | ⟨.wait _, _⟩ => none

/-- The requests made of the provider, in order. -/
def requests (calls : List (Call Cost)) : List Request := calls.filterMap Call.request?

/-- `IsRequest s script k request`: the request is the one due after `k` answers. It goes one model
down the chain for each empty answer so far, and stays with the last model. -/
def IsRequest (s : Setting) (script : Script Cost) (k : Nat) (request : Request) : Prop :=
  s.models[min (script.faults .emptyResponse k) (s.models.length - 1)]? = some request.model ∧
    request.messages = s.messages ∧ request.maxTokens = s.maxTokens ∧
    request.temperature = s.temperature

/-! ## One more answer -/

namespace Script

variable {script : Script Cost} {k : Nat}

theorem faults_succ (c : Category) :
    script.faults c (k + 1) =
      script.faults c k + if (fault? (script k)).any (·.category = c) then 1 else 0 := by
  rw [faults, List.range_succ, List.countP_append, List.countP_singleton]
  rfl

theorem faults_succ_of_fault {e : Error} (h : fault? (script k) = some e) (c : Category) :
    script.faults c (k + 1) = script.faults c k + if e.category = c then 1 else 0 := by
  simp [faults_succ, h]

theorem usage_succ [Add Cost] :
    script.usage (k + 1) = Usage.merge (script.usage k) (usageOf (script k)) := by
  rw [usage, List.range_succ, List.map_append, List.map_singleton, Usage.mergeAll_concat]
  rfl

/-- The faults of the first `k` answers, by category. -/
def attempts (script : Script Cost) (k : Nat) : Attempts where
  network := script.faults .network k
  api := script.faults .api k
  emptyResponse := script.faults .emptyResponse k

theorem attempts_of {policy : RetryPolicy} {c : Category} {rule : RetryRule}
    (hr : policy.ruleFor c = some rule) : (script.attempts k).of c = script.faults c k := by
  cases c with
  | network | api | emptyResponse => rfl
  | generation | infrastructure => cases hr

theorem attempts_succ {e : Error} (h : fault? (script k) = some e) :
    script.attempts (k + 1) = (script.attempts k).bump e.category := by
  simp only [attempts, faults_succ_of_fault h]
  cases hc : e.category <;> rfl

/-- What a completion remembers after the first `k` answers. -/
def progress [Add Cost] (script : Script Cost) (models : List String) (k : Nat) :
    Progress Cost where
  model := min (script.faults .emptyResponse k) (models.length - 1)
  attempts := script.attempts k
  usage := script.usage k

theorem modelAfter_min (models : List String) (n : Nat) (e : Error) :
    modelAfter models (min n (models.length - 1)) e =
      min (n + if e.category = .emptyResponse then 1 else 0) (models.length - 1) := by
  by_cases hc : e.category = .emptyResponse
  · simp only [modelAfter, hc, if_true, nextModel?]
    split
    · rw [Option.getD_some]
      omega
    · rw [Option.getD_none]
      omega
  · simp [modelAfter, hc]

theorem progress_succ [Add Cost] {e : Error} (h : fault? (script k) = some e)
    (models : List String) :
    (script.progress models k).after models (script k) e = script.progress models (k + 1) := by
  simp only [Progress.after, progress, modelAfter_min, ← attempts_succ h, ← usage_succ,
    faults_succ_of_fault h]

end Script

/-! ## Going on and ending -/

section
variable [Add Cost] {policy : RetryPolicy} {script : Script Cost} {k : Nat} {e : Error}

theorem not_ending_of_retry (h : fault? (script k) = some e) {rule : RetryRule}
    (hr : policy.ruleFor e.category = some rule)
    (hle : script.faults e.category k + 1 ≤ rule.maxRetries)
    (result : Except Failure (String × Option (Usage Cost))) : ¬ Ending policy script k result := by
  have hcount := Script.faults_succ_of_fault h e.category
  rw [if_pos rfl] at hcount
  intro hend
  cases hend with
  | accepted completion hs hgood => simp [hs, fault?, hgood] at h
  | unusable e' h' hc | refused e' h' hc =>
    obtain rfl : e = e' := Option.some.inj (h.symm.trans h')
    simp [hc, RetryPolicy.ruleFor] at hr
  | emptied e' h' hc hn | unconnected e' h' hc hn | overloaded e' h' hc hn =>
    obtain rfl : e = e' := Option.some.inj (h.symm.trans h')
    simp only [hc, RetryPolicy.ruleFor, Option.some.injEq] at hr hcount hle
    subst hr
    omega

theorem ending_of_ruleFor_eq_none (h : fault? (script k) = some e)
    (hr : policy.ruleFor e.category = none) :
    Ending policy script k (.error (terminalFailure e)) := by
  cases hc : e.category with
  | network | api | emptyResponse => simp [hc, RetryPolicy.ruleFor] at hr
  | generation =>
    simp only [terminalFailure, hc]
    exact .unusable e h hc
  | infrastructure =>
    simp only [terminalFailure, hc]
    exact .refused e h hc

theorem ending_of_exhausted (h : fault? (script k) = some e) {rule : RetryRule}
    (hr : policy.ruleFor e.category = some rule)
    (hspent : script.faults e.category k = rule.maxRetries) :
    Ending policy script k (.error (exhaustedFailure e rule.maxRetries)) := by
  have hcount := Script.faults_succ_of_fault h e.category
  rw [if_pos rfl, hspent] at hcount
  cases hc : e.category with
  | generation | infrastructure => simp [hc, RetryPolicy.ruleFor] at hr
  | network =>
    simp only [hc, RetryPolicy.ruleFor, Option.some.injEq] at hr hcount
    subst hr
    simp only [exhaustedFailure, hc, ← String.append_assoc]
    exact .unconnected e h hc hcount
  | api =>
    simp only [hc, RetryPolicy.ruleFor, Option.some.injEq] at hr hcount
    subst hr
    simp only [exhaustedFailure, hc, ← String.append_assoc]
    exact .overloaded e h hc hcount
  | emptyResponse =>
    simp only [hc, RetryPolicy.ruleFor, Option.some.injEq] at hr hcount
    subst hr
    simp only [exhaustedFailure, hc, ← String.append_assoc]
    exact .emptied e h hc hcount

/-! ## A whole completion -/

omit [Add Cost] in
/-- Waiting makes no request and takes no answer. -/
theorem run_waitThen {α : Type} (script : Script Cost) (time : Duration)
    (rest : Dialogue Ask (Answer Cost) α) (k : Nat) :
    ∃ calls, (waitThen time rest).run script.provider k =
        ((rest.run script.provider k).1, calls, (rest.run script.provider k).2.2) ∧
      requests calls = requests (rest.run script.provider k).2.1 := by
  rw [waitThen]
  split
  · exact ⟨_, rfl, rfl⟩
  · exact ⟨⟨.wait time, ()⟩ :: _, rfl, rfl⟩

/-- A completion that is still going after `k` answers: each of them had a fault of a category that
is tried again, and no category has had more faults than retries. -/
structure Going (policy : RetryPolicy) (script : Script Cost) (k : Nat) : Prop where
  network : script.faults .network k ≤ policy.network.maxRetries
  api : script.faults .api k ≤ policy.api.maxRetries
  emptyResponse : script.faults .emptyResponse k ≤ policy.emptyResponse.maxRetries
  count : k = script.faults .network k + script.faults .api k + script.faults .emptyResponse k

omit [Add Cost] in
theorem Going.zero : Going policy script 0 :=
  ⟨Nat.zero_le _, Nat.zero_le _, Nat.zero_le _, rfl⟩

omit [Add Cost] in
theorem Going.succ (hgoing : Going policy script k) (h : fault? (script k) = some e)
    {rule : RetryRule} (hr : policy.ruleFor e.category = some rule)
    (hle : script.faults e.category k + 1 ≤ rule.maxRetries) : Going policy script (k + 1) := by
  obtain ⟨hnetwork, hapi, hempty, hcount⟩ := hgoing
  cases hc : e.category with
  | generation | infrastructure => simp [hc, RetryPolicy.ruleFor] at hr
  | network | api | emptyResponse =>
    simp only [hc, RetryPolicy.ruleFor, Option.some.injEq] at hr hle
    subst hr
    constructor <;> simp only [Script.faults_succ_of_fault h, hc, if_true, reduceCtorEq, if_false] <;>
      omega

omit [Add Cost] in
theorem Going.faults_le (hgoing : Going policy script k) {c : Category} {rule : RetryRule}
    (hr : policy.ruleFor c = some rule) : script.faults c k ≤ rule.maxRetries := by
  cases c with
  | network => exact Option.some.inj hr ▸ hgoing.network
  | api => exact Option.some.inj hr ▸ hgoing.api
  | emptyResponse => exact Option.some.inj hr ▸ hgoing.emptyResponse
  | generation | infrastructure => cases hr

/-- The completion from where it stands after `k` answers on: it ends at the first answer that ends
it, having made the request due at each place until then. -/
structure Concludes (s : Setting) (script : Script Cost) (k n : Nat)
    (result : Except Failure (String × Option (Usage Cost))) (calls : List (Call Cost)) : Prop where
  ending : Ending s.retry script n result
  first : ∀ j, k ≤ j → j < n → ∀ r, ¬ Ending s.retry script j r
  going : Going s.retry script n
  length : k + (requests calls).length = n + 1
  request : ∀ j request, (requests calls)[j]? = some request → IsRequest s script (k + j) request

theorem Concludes.single {s : Setting} {request : Request}
    {result : Except Failure (String × Option (Usage Cost))} (hgoing : Going s.retry script k)
    (hrequest : IsRequest s script k request) (hend : Ending s.retry script k result) :
    Concludes s script k k result [⟨.complete request, script k⟩] := by
  refine ⟨hend, fun j _ _ => by omega, hgoing, rfl, ?_⟩
  rintro (_ | j) request' hj
  · cases hj
    exact hrequest
  · cases hj

theorem Concludes.cons {s : Setting} {request : Request} {n : Nat}
    {result : Except Failure (String × Option (Usage Cost))} {calls waited : List (Call Cost)}
    (h : Concludes s script (k + 1) n result calls) (hrequest : IsRequest s script k request)
    (hgoes : ∀ r, ¬ Ending s.retry script k r) (hwaited : requests waited = requests calls) :
    Concludes s script k n result (⟨.complete request, script k⟩ :: waited) := by
  have hcalls : requests (⟨.complete request, script k⟩ :: waited) = request :: requests calls := by
    rw [← hwaited]
    rfl
  refine ⟨h.ending, ?_, h.going, ?_, ?_⟩
  · intro j hkj hjn
    rcases Nat.eq_or_lt_of_le hkj with rfl | hkj
    · exact hgoes
    · exact h.first j hkj hjn
  · have := h.length
    rw [hcalls, List.length_cons]
    omega
  · rw [hcalls]
    rintro (_ | j) request' hj
    · cases hj
      exact hrequest
    · have := h.request j request' hj
      rwa [Nat.add_right_comm] at this

/-- A completion that is still going comes to an end, and to the one that the script tells. -/
theorem exists_concludes {s : Setting} (hs : s.models ≠ []) (hgoing : Going s.retry script k) :
    ∃ n result calls,
      (completeFrom s (script.progress s.models k)).run script.provider k =
        (result, calls, n + 1) ∧
      Concludes s script k n result calls := by
  -- the retries left bound the answers to come
  induction hleft : (script.attempts k).left s.retry using Nat.strongRecOn generalizing k with
  | _ left ih =>
  have hlength := List.length_pos_of_ne_nil hs
  obtain ⟨model, hmodel⟩ : ∃ model,
      s.models[min (script.faults .emptyResponse k) (s.models.length - 1)]? = some model :=
    ⟨_, List.getElem?_eq_getElem (by omega)⟩
  have hrequest : IsRequest s script k ⟨model, s.messages, s.maxTokens, s.temperature⟩ :=
    ⟨hmodel, rfl, rfl, rfl⟩
  rw [completeFrom_eq hmodel]
  cases hf : fault? (script k) with
  | none =>
    obtain ⟨completion, hok⟩ := exists_completion_of_fault?_eq_none hf
    have hgood : contentFault? completion.text = none := by simpa [hok, fault?] using hf
    refine ⟨k, _, _, ?_, .single hgoing hrequest (.accepted completion hok hgood)⟩
    simp [Dialogue.run, Script.provider, respond, hok, fault?, hgood, textOf, Script.progress,
      Script.usage_succ]
  | some e =>
    cases hr : s.retry.ruleFor e.category with
    | none =>
      refine ⟨k, _, _, ?_, .single hgoing hrequest (ending_of_ruleFor_eq_none hf hr)⟩
      simp [Dialogue.run, Script.provider, respond, hf, hr]
    | some rule =>
      have hspent : (script.progress s.models k).attempts.of e.category =
          script.faults e.category k := Script.attempts_of hr
      by_cases hle : script.faults e.category k + 1 ≤ rule.maxRetries
      · have hlower : (script.attempts (k + 1)).left s.retry < left := by
          rw [Script.attempts_succ hf, ← hleft]
          exact Attempts.left_bump_lt hr (Script.attempts_of hr ▸ hle)
        obtain ⟨n, result, calls, hrun, hconcludes⟩ :=
          ih _ hlower (hgoing.succ hf hr hle) rfl
        obtain ⟨waited, hwait, hwaited⟩ := run_waitThen script
          (rule.delay (script.faults e.category k + 1) e.retryAfter)
          (completeFrom s (script.progress s.models (k + 1))) (k + 1)
        rw [hrun] at hwait hwaited
        refine ⟨n, result, _, ?_,
          hconcludes.cons hrequest (not_ending_of_retry hf hr hle) hwaited⟩
        simp only [Dialogue.run, Script.provider, respond, hf, hr, hspent, if_pos hle,
          Script.progress_succ hf, hwait]
      · have hmax : script.faults e.category k = rule.maxRetries := by
          have := hgoing.faults_le hr
          omega
        refine ⟨k, _, _, ?_, .single hgoing hrequest (ending_of_exhausted hf hr hmax)⟩
        simp [Dialogue.run, Script.provider, respond, hf, hr, hspent, hle]

/-- **What a completion comes to is told by the script.** It ends after as many requests as one more
than there are retries at the most, and exactly at the first answer that ends it; until then no
category has had more faults than it has retries of its own. Each request goes to the model that
the empty answers before it call for. -/
theorem complete_script (s : Setting) (hs : s.models ≠ []) (script : Script Cost) :
    ∃ n result calls,
      (complete s).run script.provider 0 = (result, calls, n + 1) ∧
      n + 1 ≤ 1 + s.retry.network.maxRetries + s.retry.api.maxRetries +
        s.retry.emptyResponse.maxRetries ∧
      Ending s.retry script n result ∧
      (∀ k < n, ∀ r, ¬ Ending s.retry script k r) ∧
      (∀ c rule, s.retry.ruleFor c = some rule → script.faults c n ≤ rule.maxRetries) ∧
      (requests calls).length = n + 1 ∧
      ∀ k request, (requests calls)[k]? = some request → IsRequest s script k request := by
  have hstart : script.progress s.models 0 = {} := by
    simp [Script.progress, Script.attempts, Script.faults, Script.usage]
  obtain ⟨n, result, calls, hrun, h⟩ := exists_concludes hs (Going.zero : Going s.retry script 0)
  rw [hstart] at hrun
  refine ⟨n, result, calls, hrun, ?_, h.ending, fun k => h.first k (Nat.zero_le k),
    fun c rule => h.going.faults_le, by simpa using h.length, ?_⟩
  · obtain ⟨hnetwork, hapi, hempty, hcount⟩ := h.going
    omega
  · intro k request hk
    simpa using h.request k request hk

end

/-- Two models, and the usual retries without any wait. -/
def twoModels : Setting where
  models := ["large", "small"]
  retry := .immediate
  messages := [.user "write"]
  maxTokens := 100
  temperature := 0

/-- No connection, an answer with nothing in it, then good answers. -/
def unsteady : Script Nat
  | 0 => .error { category := .network, message := "down" }
  | 1 => .ok emptyAnswer
  | _ => .ok goodAnswer

theorem complete_script_unsteady :
    twoModels.models ≠ [] ∧
    ∃ calls, (complete twoModels).run unsteady.provider 0 =
        (.ok (goodAnswer.text, some { totalTokens := 9, cost := some 8 }), calls, 3) ∧
      (requests calls).map (·.model) = ["large", "large", "small"] := by
  have hs : twoModels.models ≠ [] := by decide
  refine ⟨hs, ?_⟩
  obtain ⟨n, result, calls, hrun, -, hend, hfirst, -, hlength, hrequest⟩ :=
    complete_script twoModels hs unsteady
  have hlast : Ending twoModels.retry unsteady 2 (.ok (goodAnswer.text, unsteady.usage 3)) :=
    .accepted goodAnswer rfl fault?_goodAnswer
  have hn : n = 2 := by
    match n with
    | 0 => exact absurd hend (not_ending_of_retry rfl rfl (by decide) _)
    | 1 => exact absurd hend (not_ending_of_retry fault?_emptyAnswer rfl (by decide) _)
    | 2 => rfl
    | n + 3 => exact absurd hlast (hfirst 2 (by omega) _)
  subst hn
  cases hend with
  | unusable e h hc | refused e h hc => cases fault?_goodAnswer.symm.trans h
  | emptied e h hc hn | unconnected e h hc hn | overloaded e h hc hn =>
    cases fault?_goodAnswer.symm.trans h
  | accepted completion h _ =>
    cases h
    refine ⟨calls, hrun, ?_⟩
    match hcalls : requests calls, hlength with
    | [first, second, third], _ =>
      rw [hcalls] at hrequest
      have hfirst : some "large" = some first.model := (hrequest 0 first rfl).1
      have hsecond : some "large" = some second.model := (hrequest 1 second rfl).1
      have hthird : some "small" = some third.model := (hrequest 2 third rfl).1
      simp only [Option.some.injEq] at hfirst hsecond hthird
      simp [← hfirst, ← hsecond, ← hthird]

end RemapSynth.Generation
