/-
What a generator's session says of money spent. A completion adds up the
usage of every answer it got, good or not; but the sum reaches the session
only together with a program. What was paid for in a call that fails is in no
session, and the loss is exactly that: counted and lost usage together are all
that was received (`usage_of_visits`). A plan loses what it paid for in the
same way, when no answer passes for one.
-/
import Mathlib.Algebra.GroupWithZero.Nat
import RemapSynth.Generation.Session
import RemapSynth.Proofs.Chat.Usage
import RemapSynth.Proofs.Generation.Completion

namespace RemapSynth.Generation

open Chat Dialogue

variable {Cost : Type}

/-! ## What can be seen of calls -/

/-- The usage of a completion that a provider has returned. -/
def Call.received? : Call Cost → Option (Option (Usage Cost))
  | ⟨.complete _, .ok completion⟩ => some completion.usage
  | _ => none

/-- The usages of all completions that a provider has returned, in order. -/
def received (calls : List (Call Cost)) : List (Option (Usage Cost)) :=
  calls.filterMap Call.received?

/-- Whether a provider has returned a completion without a fault. -/
def Call.isAccepted : Call Cost → Bool
  | ⟨.complete _, .ok completion⟩ => (contentFault? completion.text).isNone
  | _ => false

/-! ## One completion -/

section
variable [Add Cost] {s : Setting} {p : Progress Cost} {calls : List (Call Cost)}
  {result : Except Failure (String × Option (Usage Cost))}

theorem foldl_received (request : Request) (answer : Except Error (Completion Cost))
    (calls : List (Call Cost)) (u : Option (Usage Cost)) :
    (received (⟨.complete request, answer⟩ :: calls)).foldl Usage.merge u =
      (received calls).foldl Usage.merge (Usage.merge u (usageOf answer)) := by
  cases answer with
  | ok completion => rfl
  | error e =>
    rw [usageOf, Usage.merge_none]
    rfl

omit [Add Cost] in
theorem isAccepted_eq (request : Request) (answer : Except Error (Completion Cost)) :
    Call.isAccepted ⟨.complete request, answer⟩ = (fault? answer).isNone := by
  cases answer <;> rfl

/-- A completion brings a text just when one of its answers has no fault, and with the text the
usage of every answer. -/
theorem Completes.usage_eq (h : Completes s p calls result) :
    (∃ text, result = .ok (text, (received calls).foldl Usage.merge p.usage) ∧
      calls.any Call.isAccepted = true) ∨
    ∃ failure, result = .error failure ∧ calls.any Call.isAccepted = false := by
  induction h with
  | unconfigured failure => exact .inr ⟨failure, rfl, rfl⟩
  | answered model answer hf =>
    rw [foldl_received, List.any_cons, isAccepted_eq, hf]
    exact .inl ⟨_, rfl, rfl⟩
  | failed model answer e hf failure =>
    rw [List.any_cons, isAccepted_eq, hf]
    exact .inr ⟨failure, rfl, rfl⟩
  | again model answer e hf hmore ih | waited model answer e hf time hmore ih =>
    rw [foldl_received, List.any_cons, isAccepted_eq, hf]
    exact ih

theorem history_completeFrom (h : History (completeFrom s p) calls result) :
    (∃ text, result = .ok (text, (received calls).foldl Usage.merge p.usage) ∧
      calls.any Call.isAccepted = true) ∨
    ∃ failure, result = .error failure ∧ calls.any Call.isAccepted = false :=
  (completes_of_history h).usage_eq

end

/-! ## One call of a generator -/

section
variable [Add Cost] {g : Generator} {calls : List (Call Cost)}

/-- A task brings a program with the usage of every answer, and the session records both; or it
fails, and the session stays as it was. -/
theorem history_perform {task : Task} {s s' : Session Cost}
    {result : Except Failure (Generated Cost)}
    (h : History (g.perform task s) calls (result, s')) :
    (∃ generated, result = .ok generated ∧ generated.usage = Usage.mergeAll (received calls) ∧
      s' = s.record task generated) ∨
    ∃ failure, result = .error failure ∧ s' = s := by
  rw [Generator.perform] at h
  split at h
  next failure _ =>
    rw [history_done] at h
    cases h.2
    exact .inr ⟨failure, rfl, rfl⟩
  next =>
    rw [history_map] at h
    obtain ⟨completed, hcomplete, h⟩ := h
    obtain ⟨text, rfl, -⟩ | ⟨failure, rfl, -⟩ := history_completeFrom hcomplete
    · dsimp only at h
      split at h
      · cases h
        exact .inr ⟨_, rfl, rfl⟩
      · cases h
        exact .inl ⟨_, rfl, rfl, rfl⟩
    · cases h
      exact .inr ⟨failure, rfl, rfl⟩

/-- A plan tells the usage of every answer if one of them has no fault; else it tells none. -/
theorem history_plan {samples : List Sample} {count : Nat} {strategies : List Strategy}
    {usage : Option (Usage Cost)}
    (h : History (g.plan samples count) calls (.ok (strategies, usage))) :
    usage = if calls.any Call.isAccepted then Usage.mergeAll (received calls) else none := by
  rw [Generator.plan, history_map] at h
  obtain ⟨completed, hcomplete, h⟩ := h
  obtain ⟨text, rfl, haccepted⟩ | ⟨failure, rfl, haccepted⟩ := history_completeFrom hcomplete
  · simp only [Except.ok.injEq, Prod.mk.injEq] at h
    rw [haccepted, if_pos rfl, h.2]
    rfl
  · dsimp only at h
    split at h
    · cases h
    · simp only [Except.ok.injEq, Prod.mk.injEq] at h
      simp [haccepted, h.2]

end

/-! ## Many calls of a generator -/

/-- One call of a generator as it went: what was wanted, what the provider was asked, and what came
of it. -/
inductive Visit (Cost : Type)
  | task (task : Task) (calls : List (Call Cost)) (result : Except Failure (Generated Cost))
  | plan (samples : List Sample) (count : Nat) (calls : List (Call Cost))
    (result : Except Failure (List Strategy × Option (Usage Cost)))

namespace Visit

/-- The usages of all completions that the provider has returned during the call. -/
def received : Visit Cost → List (Option (Usage Cost))
  | task _ calls _ | plan _ _ calls _ => Generation.received calls

def isTask : Visit Cost → Bool
  | task _ _ _ => true
  | plan _ _ _ _ => false

/-- Whether a program was wanted and delivered. -/
def isDelivery : Visit Cost → Bool
  | task _ _ (.ok _) => true
  | _ => false

/-- Whether a program was wanted and not delivered. -/
def isLoss : Visit Cost → Bool
  | task _ _ (.error _) => true
  | _ => false

end Visit

/-- The usage of all completions that the provider has returned during some calls. -/
def paid [Add Cost] (visits : List (Visit Cost)) : Option (Usage Cost) :=
  Usage.mergeAll (visits.flatMap Visit.received)

/-- `Serves g s visits s'`: the generator is called as `visits` tell, which takes its session from
`s` to `s'`. A plan has no part in the session. -/
inductive Serves [Add Cost] (g : Generator) :
    Session Cost → List (Visit Cost) → Session Cost → Prop
  | nil {s} : Serves g s [] s
  | task {s task calls result s' visits s''}
      (h : History (g.perform task s) calls (result, s')) (more : Serves g s' visits s'') :
    Serves g s (.task task calls result :: visits) s''
  | plan {s samples count calls result visits s'}
      (h : History (g.plan samples count) calls result) (more : Serves g s visits s') :
    Serves g s (.plan samples count calls result :: visits) s'

theorem Serves.plan_usage [Add Cost] {g : Generator} {s s' : Session Cost}
    {visits : List (Visit Cost)} (h : Serves g s visits s') {samples : List Sample} {count : Nat}
    {calls : List (Call Cost)} {strategies : List Strategy} {usage : Option (Usage Cost)}
    (hm : .plan samples count calls (.ok (strategies, usage)) ∈ visits) :
    usage = if calls.any Call.isAccepted then Usage.mergeAll (received calls) else none := by
  induction h with
  | nil => cases hm
  | task h more ih =>
    rcases List.mem_cons.1 hm with hm | hm
    · cases hm
    · exact ih hm
  | plan h more ih =>
    rcases List.mem_cons.1 hm with hm | hm
    · cases hm
      exact history_plan h
    · exact ih hm

section
variable [AddCommSemigroup Cost] {g : Generator} {s s' : Session Cost} {visits : List (Visit Cost)}

/-- A session gains what the deliveries have cost. -/
theorem Serves.usage_eq (h : Serves g s visits s') :
    s'.usage = Usage.merge s.usage (paid (visits.filter Visit.isDelivery)) := by
  induction h with
  | nil => simp [paid]
  | plan h more ih => simpa [Visit.isDelivery] using ih
  | task h more ih =>
    obtain ⟨generated, rfl, husage, rfl⟩ | ⟨failure, rfl, rfl⟩ := history_perform h
    · rw [List.filter_cons_of_pos rfl, paid, List.flatMap_cons, Usage.mergeAll_append,
        ← Usage.merge_assoc, ih, Session.record, husage]
      rfl
    · simpa [Visit.isDelivery] using ih

/-- What calls for programs have cost is what the deliveries among them have cost, and the rest. -/
theorem paid_tasks (visits : List (Visit Cost)) :
    Usage.merge (paid (visits.filter Visit.isDelivery)) (paid (visits.filter Visit.isLoss)) =
      paid (visits.filter Visit.isTask) := by
  rw [paid, paid, paid, ← Usage.mergeAll_append, ← List.flatMap_append]
  refine Usage.mergeAll_perm (List.Perm.flatMap_right _ ?_)
  induction visits with
  | nil => exact .nil
  | cons v visits ih =>
    match v with
    | .task _ _ (.ok _) => exact ih.cons _
    | .task _ _ (.error _) => exact List.perm_middle.trans (ih.cons _)
    | .plan _ _ _ _ => exact ih

end

/-- **Only delivered programs are accounted for.** After any calls the summary of a session tells
the usage of every completion received in those calls that delivered a program, and with what was
received in the calls that failed this is all that was received for programs; so the summary tells
everything if the failed calls received nothing. A plan tells the usage of every completion
received for it if one of them has no fault, and nothing else. -/
theorem usage_of_visits [AddCommMonoid Cost] {g : Generator} {s : Session Cost}
    {visits : List (Visit Cost)} (h : Serves g g.session visits s) :
    s.summary.usage = paid (visits.filter Visit.isDelivery) ∧
    Usage.merge s.summary.usage (paid (visits.filter Visit.isLoss)) =
      paid (visits.filter Visit.isTask) ∧
    ((∀ v ∈ visits, v.isLoss → ∀ u ∈ v.received, u = none) →
      s.summary.usage = paid (visits.filter Visit.isTask)) ∧
    ∀ samples count calls strategies usage,
      .plan samples count calls (.ok (strategies, usage)) ∈ visits →
      usage = if calls.any Call.isAccepted then Usage.mergeAll (received calls) else none := by
  have husage : s.summary.usage = paid (visits.filter Visit.isDelivery) := h.usage_eq
  have hall := paid_tasks visits
  rw [← husage] at hall
  refine ⟨husage, hall, fun hnone => ?_, fun _ _ _ _ _ => h.plan_usage⟩
  have hloss : paid (visits.filter Visit.isLoss) = none := by
    refine Usage.mergeAll_eq_none fun u hu => ?_
    obtain ⟨v, hv, hu⟩ := List.mem_flatMap.1 hu
    obtain ⟨hv, hloss⟩ := List.mem_filter.1 hv
    exact hnone v hv hloss u hu
  rw [← hall, hloss, Usage.merge_none]

/-- One model, and one retry for an answer with nothing in it. -/
def oneModel : Generator where
  models := ["large"]
  settings := {}
  retry := .immediate

/-- The only request of a completion that is given this answer. -/
def callOf (s : Setting) (completion : Completion Nat) : Call Nat :=
  ⟨.complete ⟨"large", s.messages, s.maxTokens, s.temperature⟩, .ok completion⟩

theorem history_empty_answers (messages : List Message) (temperature : Float32) :
    History (complete (oneModel.setting messages temperature))
      (List.replicate 2 (callOf (oneModel.setting messages temperature) emptyAnswer))
      (.error (exhaustedFailure emptyFault 1)) := by
  rw [complete, completeFrom_eq rfl]
  refine history_ask.2 ⟨.ok emptyAnswer, _, rfl, ?_⟩
  rw [respond, fault?_emptyAnswer]
  change History (completeFrom _ (Progress.after {} _ (.ok emptyAnswer) emptyFault)) _ _
  rw [completeFrom_eq rfl]
  refine history_ask.2 ⟨.ok emptyAnswer, _, rfl, ?_⟩
  rw [respond, fault?_emptyAnswer]
  exact history_done.2 ⟨rfl, rfl⟩

theorem history_good_answer (messages : List Message) (temperature : Float32) :
    History (complete (oneModel.setting messages temperature))
      [callOf (oneModel.setting messages temperature) goodAnswer]
      (.ok (goodAnswer.text, goodAnswer.usage)) := by
  rw [complete, completeFrom_eq rfl]
  refine history_ask.2 ⟨.ok goodAnswer, _, rfl, ?_⟩
  rw [respond, fault?_goodAnswer]
  exact history_done.2 ⟨rfl, rfl⟩

def someTask : Task := .generate [.ofMessage "line"] none none

def firstSession : Session Nat := oneModel.session

def firstSetting : Setting :=
  oneModel.setting (firstSession.conversation.messagesFor someTask.prompt)
    oneModel.settings.generationTemperature

def planSetting : Setting :=
  oneModel.setting [.system Prompt.instruction, .user (Prompt.plan [] 1)]
    oneModel.settings.generationTemperature

/-- A program that is not delivered, one that is, and a plan that no answer passes for. -/
def lossyVisits : List (Visit Nat) :=
  [.task someTask (List.replicate 2 (callOf firstSetting emptyAnswer))
      (.error (exhaustedFailure emptyFault 1)),
    .task someTask [callOf firstSetting goodAnswer] (.ok ⟨goodAnswer.text, goodAnswer.usage⟩),
    .plan [] 1 (List.replicate 2 (callOf planSetting emptyAnswer))
      (.ok (Strategy.fillTo [] 1, none))]

theorem program?_goodAnswer : Prompt.program? goodAnswer.text = some goodAnswer.text := by decide

theorem serves_lossyVisits :
    Serves oneModel oneModel.session lossyVisits
      (firstSession.record someTask ⟨goodAnswer.text, goodAnswer.usage⟩) := by
  have hgood : History (oneModel.perform someTask firstSession) [callOf firstSetting goodAnswer]
      (.ok ⟨goodAnswer.text, goodAnswer.usage⟩,
        firstSession.record someTask ⟨goodAnswer.text, goodAnswer.usage⟩) :=
    history_map.2 ⟨_, history_good_answer _ _, by simp only [program?_goodAnswer]⟩
  have hplan : History (oneModel.plan [] 1) (List.replicate 2 (callOf planSetting emptyAnswer))
      (.ok (Strategy.fillTo [] 1, none)) :=
    history_map.2 ⟨_, history_empty_answers _ _, rfl⟩
  exact .task (history_map.2 ⟨_, history_empty_answers _ _, rfl⟩) (.task hgood (.plan hplan .nil))

theorem usage_of_visits_lossy :
    ∃ s, Serves oneModel oneModel.session lossyVisits s ∧
    s.summary.usage = some { totalTokens := 7, cost := some 3 } ∧
    paid (lossyVisits.filter Visit.isTask) = some { totalTokens := 11, cost := some 13 } ∧
    Usage.merge s.summary.usage (paid (lossyVisits.filter Visit.isLoss)) =
      some { totalTokens := 11, cost := some 13 } := by
  obtain ⟨husage, hall, -⟩ := @usage_of_visits Nat _ _ _ _ serves_lossyVisits
  exact ⟨_, serves_lossyVisits, husage, rfl, hall⟩

end RemapSynth.Generation
