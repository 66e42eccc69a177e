/-
What a generator remembers of its calls. Only a call that delivers a program
leaves anything behind: one turn of the conversation, and with a repair the
kind of error it was about (`Serves.memory`). So the messages of the next call
are known from the programs delivered so far (`requests_of_visits`), whatever
failed or was tried again in between.
-/
import Mathlib.Data.List.DropRight
import Mathlib.Data.List.Induction
import RemapSynth.Proofs.Chat.Conversation
import RemapSynth.Proofs.Generation.Accounting

namespace RemapSynth.Generation

open Chat Dialogue

variable {Cost : Type}

/-! ## What a completion sends -/

section
variable [Add Cost] {s : Setting} {p : Progress Cost} {calls : List (Call Cost)}

/-- **A completion sends the same messages whenever it tries again.** -/
theorem Completes.messages_eq {result : Except Failure (String × Option (Usage Cost))}
    (h : Completes s p calls result) {request : Request}
    {answer : Except Error (Completion Cost)}
    (hm : (⟨.complete request, answer⟩ : Call Cost) ∈ calls) : request.messages = s.messages := by
  induction h with
  | unconfigured => cases hm
  | answered | failed =>
    cases List.mem_singleton.1 hm
    rfl
  | again _ _ _ _ _ ih =>
    rcases List.mem_cons.1 hm with hm | hm
    · cases hm
      rfl
    · exact ih hm
  | waited _ _ _ _ _ _ ih =>
    rcases List.mem_cons.1 hm with hm | hm
    · cases hm
      rfl
    rcases List.mem_cons.1 hm with hm | hm
    · cases hm
    · exact ih hm

theorem messages_of_perform {g : Generator} {task : Task} {s s' : Session Cost}
    {result : Except Failure (Generated Cost)}
    (h : History (g.perform task s) calls (result, s')) {request : Request}
    {answer : Except Error (Completion Cost)}
    (hm : (⟨.complete request, answer⟩ : Call Cost) ∈ calls) :
    request.messages = s.conversation.messagesFor task.prompt := by
  rw [Generator.perform] at h
  split at h
  next =>
    rw [history_done] at h
    rw [h.1] at hm
    cases hm
  next =>
    rw [history_map] at h
    obtain ⟨completed, hcomplete, -⟩ := h
    exact (completes_of_history hcomplete).messages_eq hm

end

/-! ## What calls leave behind -/

/-- A program that was delivered, and what was asked for. -/
structure Delivery where
  prompt : String
  code : String
  deriving Repr, DecidableEq

/-- The turn that a delivery leaves behind: the program goes back in a fence. -/
def Delivery.turn (d : Delivery) : Turn := ⟨d.prompt, "```vrl\n" ++ d.code ++ "\n```"⟩

def Visit.delivery? : Visit Cost → Option Delivery
  | task t _ (.ok generated) => some ⟨t.prompt, generated.code⟩
  | _ => none

/-- What calls have delivered, in order. -/
def delivered (visits : List (Visit Cost)) : List Delivery := visits.filterMap Visit.delivery?

/-- The kind of error that a call has repaired. -/
def Visit.repaired? : Visit Cost → Option Diagnosis
  | task t _ (.ok _) => t.diagnosis?
  | _ => none

/-- The kinds of error that calls have repaired, one for every repair. -/
def repaired (visits : List (Visit Cost)) : List Diagnosis := visits.filterMap Visit.repaired?

/-- Notes a kind of error, unless it was noted before. -/
def note (noted : List Diagnosis) (d : Diagnosis) : List Diagnosis :=
  if noted.contains d then noted else noted ++ [d]

theorem eraseDups_concat (ds : List Diagnosis) (d : Diagnosis) :
    (ds ++ [d]).eraseDups = note ds.eraseDups d := by
  rw [List.eraseDups_append, note]
  by_cases hd : d ∈ ds
  · simp [hd, List.removeAll]
  · simp [hd, List.removeAll, List.eraseDups_cons]

/-- What is noted one after another is noted once, in order of the first time. -/
theorem foldl_note (ds : List Diagnosis) : ds.foldl note [] = ds.eraseDups := by
  induction ds using List.reverseRecOn with
  | nil => rfl
  | append_singleton ds d ih => rw [List.foldl_append, ih, eraseDups_concat]; rfl

section
variable [Add Cost] {g : Generator} {s s' : Session Cost} {visits : List (Visit Cost)}

theorem diagnoses_record (s : Session Cost) (task : Task) (generated : Generated Cost) :
    (s.record task generated).diagnoses = task.diagnosis?.toList.foldl note s.diagnoses := by
  cases task <;> rfl

/-- **What a session remembers,** call after call. -/
theorem Serves.memory (h : Serves g s visits s') :
    s'.conversation =
      ((delivered visits).map Delivery.turn).foldl Conversation.push s.conversation ∧
    s'.iterations = s.iterations + (delivered visits).length ∧
    s'.diagnoses = (repaired visits).foldl note s.diagnoses := by
  induction h with
  | nil => exact ⟨rfl, rfl, rfl⟩
  | @plan s samples count calls result visits s' h more ih => exact ih
  | @task s task calls result s₁ visits s' h more ih =>
    obtain ⟨hconversation, hiterations, hdiagnoses⟩ := ih
    obtain ⟨generated, rfl, -, rfl⟩ | ⟨failure, rfl, rfl⟩ := history_perform h
    · have hdelivered : delivered (.task task calls (.ok generated) :: visits) =
          ⟨task.prompt, generated.code⟩ :: delivered visits := rfl
      have hrepaired : repaired (.task task calls (.ok generated) :: visits) =
          task.diagnosis?.toList ++ repaired visits := by
        rw [repaired, List.filterMap_cons]
        cases task <;> rfl
      refine ⟨hconversation, ?_, ?_⟩
      · rw [hiterations, hdelivered, List.length_cons]
        simp only [Session.record]
        omega
      · rw [hdiagnoses, diagnoses_record, hrepaired, List.foldl_append]
    · exact ⟨hconversation, hiterations, hdiagnoses⟩

end

/-- What is sent after some deliveries, word for word. -/
theorem messagesAfter_turns (limit : Nat) (content : String) (programs : List Delivery)
    (next : String) :
    Conversation.messagesAfter limit content (programs.map Delivery.turn) next =
      .system content ::
        (if limit < programs.length then
          [.system ("Summary of earlier exchanges in this session:\n" ++
            String.join (((programs.rdrop limit).rtake (min (programs.length - limit) limit)).map
              fun d => "- " ++ d.turn.digest ++ "\n"))]
        else []) ++
        (programs.rtake (min programs.length limit)).flatMap
          (fun d => [.user d.turn.asked, .assistant d.turn.answered]) ++
        [.user next] := by
  have holder : (programs.map Delivery.turn).take (programs.length - limit) =
      (programs.rdrop limit).map Delivery.turn := by
    rw [List.rdrop, List.map_take]
  have hlast (n : Nat) (ds : List Delivery) :
      Conversation.last n (ds.map Delivery.turn) = (ds.rtake n).map Delivery.turn := by
    rw [← Conversation.map_last]
    rfl
  rw [Conversation.messagesAfter, List.length_map, holder, hlast, hlast, List.map_map,
    List.flatMap_map, Conversation.digestText_map]
  rfl

/-- **What the next call sends, and what it leaves behind when it fails.** After any calls, the
requests of one more carry the instruction, one message with a line each for older programs if
there are any, the newest programs with what was asked for, and what is asked now; never more than
the bound. Every such line is a single one and is short. The summary tells how many programs were
delivered and, once each, the kinds of error repaired. A call that fails changes nothing. -/
theorem requests_of_visits [Add Cost] [Zero Cost] {g : Generator} {s : Session Cost}
    {visits : List (Visit Cost)} (h : Serves g g.session visits s) :
    let limit := max 1 g.settings.historyTurns
    let programs := delivered visits
    let older := programs.rdrop limit
    (∀ task calls result s', History (g.perform task s) calls (result, s') →
      (∀ request answer, (⟨.complete request, answer⟩ : Call Cost) ∈ calls →
        request.messages =
          .system Prompt.instruction ::
            (if limit < programs.length then
              [.system ("Summary of earlier exchanges in this session:\n" ++
                String.join ((older.rtake (min (programs.length - limit) limit)).map fun d =>
                  "- " ++ Turn.digest ⟨d.prompt, "```vrl\n" ++ d.code ++ "\n```"⟩ ++ "\n"))]
            else []) ++
            (programs.rtake (min programs.length limit)).flatMap
              (fun d => [.user d.prompt, .assistant ("```vrl\n" ++ d.code ++ "\n```")]) ++
            [.user task.prompt] ∧
        request.messages.length ≤ 2 * limit + 3) ∧
      ∀ failure, result = .error failure → s' = s) ∧
    (∀ t : Turn,
      t.digest = Text.truncate ("asked: " ++ firstLine t.asked ++ " | answered with " ++
        Nat.repr ((Chars.lines t.answered.toList).filter isCodeLine).length ++ " code lines") 160 ∧
      Text.lines t.digest = [t.digest] ∧ t.digest.length ≤ 160) ∧
    s.summary.iterations = programs.length ∧
    s.summary.diagnoses = (repaired visits).eraseDups := by
  intro limit programs older
  obtain ⟨hconversation, hiterations, hdiagnoses⟩ := h.memory
  have hlimit : max g.settings.historyTurns 1 = limit := Nat.max_comm _ _
  have hafter : s.conversation =
      .after limit (some Prompt.instruction) (programs.map Delivery.turn) := by
    rw [hconversation, Generator.session, Conversation.after_nil, hlimit, Conversation.foldl_push]
    rfl
  refine ⟨fun task calls result s' hcall => ⟨fun request answer hm => ?_, ?_⟩, fun t => ?_, ?_, ?_⟩
  · have hmessages := messages_of_perform hcall hm
    rw [hafter, Conversation.messagesFor_after (by omega)] at hmessages
    have hlength :=
      Conversation.length_messagesAfter_le limit Prompt.instruction (programs.map Delivery.turn)
        task.prompt
    rw [← hmessages] at hlength
    exact ⟨hmessages.trans (messagesAfter_turns limit _ programs _), hlength⟩
  · rintro failure rfl
    obtain ⟨generated, hresult, -⟩ | ⟨-, -, hs⟩ := history_perform hcall
    · cases hresult
    · exact hs
  · exact ⟨rfl, lines_digest t, length_digest_le t⟩
  · exact hiterations.trans (Nat.zero_add _)
  · exact hdiagnoses.trans (foldl_note _)

/-! ## A generator that remembers two turns -/

def brief : Generator := { oneModel with settings := { historyTurns := 2 } }

def someRepair : Task := .repair "." "error[E103]: unhandled" none none

def twoLines : Completion Nat := ⟨".a = 1\n.b = 2", none, "small"⟩

/-- The program in an answer that is nothing else. -/
def programOf (completion : Completion Nat) : Generated Nat := ⟨completion.text, completion.usage⟩

/-- The request that a task makes in a session, with its answer. -/
def briefCall (task : Task) (s : Session Nat) (completion : Completion Nat) : Call Nat :=
  callOf (brief.setting (s.conversation.messagesFor task.prompt) (brief.temperature task)) completion

theorem history_brief {task : Task} (h : task.fault? = none) (completion : Completion Nat)
    (hfault : fault? (.ok completion) = none)
    (hprogram : Prompt.program? completion.text = some completion.text) (s : Session Nat) :
    History (brief.perform task s) [briefCall task s completion]
      (.ok (programOf completion), s.record task (programOf completion)) := by
  rw [Generator.perform, h]
  refine history_map.2 ⟨.ok (completion.text, completion.usage), ?_, by simp only [hprogram]; rfl⟩
  rw [complete, completeFrom_eq rfl]
  refine history_ask.2 ⟨.ok completion, _, rfl, ?_⟩
  rw [respond, hfault]
  exact history_done.2 ⟨rfl, rfl⟩

theorem history_brief_empty {task : Task} (h : task.fault? = none) (s : Session Nat) :
    History (brief.perform task s) (List.replicate 2 (briefCall task s emptyAnswer))
      (.error (exhaustedFailure emptyFault 1), s) := by
  rw [Generator.perform, h]
  exact history_map.2 ⟨_, history_empty_answers _ _, rfl⟩

def firstBrief : Session Nat := brief.session

def secondBrief : Session Nat := firstBrief.record someRepair (programOf goodAnswer)

def thirdBrief : Session Nat := secondBrief.record someRepair (programOf twoLines)

def fourthBrief : Session Nat := thirdBrief.record someTask (programOf goodAnswer)

def lastBrief : Session Nat := fourthBrief.record someRepair (programOf twoLines)

/-- Two repairs, a program that is not delivered, the same program delivered, and another
repair. -/
def briefVisits : List (Visit Nat) :=
  [.task someRepair [briefCall someRepair firstBrief goodAnswer] (.ok (programOf goodAnswer)),
    .task someRepair [briefCall someRepair secondBrief twoLines] (.ok (programOf twoLines)),
    .task someTask (List.replicate 2 (briefCall someTask thirdBrief emptyAnswer))
      (.error (exhaustedFailure emptyFault 1)),
    .task someTask [briefCall someTask thirdBrief goodAnswer] (.ok (programOf goodAnswer)),
    .task someRepair [briefCall someRepair fourthBrief twoLines] (.ok (programOf twoLines))]

theorem serves_briefVisits : Serves brief brief.session briefVisits lastBrief := by
  have hgood {task : Task} (h : task.fault? = none) (s : Session Nat) :=
    history_brief h goodAnswer fault?_goodAnswer program?_goodAnswer s
  have htwo {task : Task} (h : task.fault? = none) (s : Session Nat) :=
    history_brief h twoLines (by decide) (by decide) s
  exact .task (hgood rfl _) (.task (htwo rfl _) (.task (history_brief_empty rfl _)
    (.task (hgood rfl _) (.task (htwo rfl _) .nil))))

theorem firstLine_someRepair :
    firstLine someRepair.prompt = "This VRL program fails validation." := by
  have hline : "This VRL program fails validation.\n\nError:\n" =
      "This VRL program fails validation." ++ "\n" ++ "\nError:\n" := by decide +kernel
  obtain ⟨rest, hprompt⟩ : ∃ rest, someRepair.prompt =
      "This VRL program fails validation." ++ "\n" ++ rest := by
    unfold someRepair Task.prompt Prompt.repair
    simp only [hline, String.append_assoc]
    exact ⟨_, rfl⟩
  rw [hprompt, firstLine_append (by decide) (by decide) (by decide)]
  decide

/-- The next call sees a line each for the first two repairs, and all of what came after. -/
theorem requests_of_visits_brief :
    ∃ request answer, Serves brief brief.session briefVisits lastBrief ∧
    History (brief.perform someTask lastBrief) [⟨.complete request, answer⟩]
      (.ok (programOf goodAnswer), lastBrief.record someTask (programOf goodAnswer)) ∧
    request.messages =
      [.system Prompt.instruction,
        .system ("Summary of earlier exchanges in this session:\n" ++
          "- asked: This VRL program fails validation. | answered with 1 code lines\n" ++
          "- asked: This VRL program fails validation. | answered with 2 code lines\n"),
        .user someTask.prompt, .assistant "```vrl\n.a = parse_json!(.message)\n```",
        .user someRepair.prompt, .assistant "```vrl\n.a = 1\n.b = 2\n```",
        .user someTask.prompt] ∧
    lastBrief.summary.iterations = 4 ∧ lastBrief.summary.diagnoses = [.unhandledFallible] := by
  obtain ⟨hcalls, -, hiterations, hdiagnoses⟩ := requests_of_visits serves_briefVisits
  have hnext := history_brief (show someTask.fault? = none from rfl) goodAnswer fault?_goodAnswer
    program?_goodAnswer lastBrief
  obtain ⟨hrequests, -⟩ := hcalls _ _ _ _ hnext
  refine ⟨_, _, serves_briefVisits, hnext, ?_, hiterations, ?_⟩
  · have hprograms : delivered briefVisits =
        [⟨someRepair.prompt, goodAnswer.text⟩, ⟨someRepair.prompt, twoLines.text⟩,
          ⟨someTask.prompt, goodAnswer.text⟩, ⟨someRepair.prompt, twoLines.text⟩] := rfl
    have hlimit : max 1 brief.settings.historyTurns = 2 := rfl
    have hone : Turn.digest ⟨someRepair.prompt, "```vrl\n.a = parse_json!(.message)\n```"⟩ =
        "asked: This VRL program fails validation. | answered with 1 code lines" := by
      rw [digest_eq firstLine_someRepair 1 (by decide +kernel) (by decide +kernel)]
      decide +kernel
    have htwo : Turn.digest ⟨someRepair.prompt, "```vrl\n.a = 1\n.b = 2\n```"⟩ =
        "asked: This VRL program fails validation. | answered with 2 code lines" := by
      rw [digest_eq firstLine_someRepair 2 (by decide +kernel) (by decide +kernel)]
      decide +kernel
    rw [(hrequests _ _ List.mem_cons_self).1, hprograms, hlimit]
    simp [List.rdrop, List.rtake, goodAnswer, twoLines, hone, htwo]
  · rw [hdiagnoses]
    decide +kernel

end RemapSynth.Generation
