/-
What a plan brings. The answer that its completion ends with is read; what it
proposes is the array between its first opening and its last closing bracket,
and the entries of that array that can be used come first, in order. Built-in
strategies do the rest, so a plan is short of nothing (`Planned`), and which
plan it is, is told by the script of the provider (`planned_run`).
-/
import RemapSynth.Generation.Session
import RemapSynth.Proofs.Dialogue
import RemapSynth.Proofs.Generation.Accounting
import RemapSynth.Proofs.Generation.Filling
import RemapSynth.Proofs.Generation.Script
import RemapSynth.Proofs.Text.Pieces

namespace RemapSynth

namespace Strategy

/-! ## What an answer proposes -/

/-- The answer holds these entries: from its first `[` to its last `]` it is an array of them. -/
def Proposes (answer : String) (entries : List Json) : Prop :=
  ∃ before inner after, answer.toList = before ++ '[' :: inner ++ ']' :: after ∧
    '[' ∉ before ∧ ']' ∉ after ∧ Json.parseChars ('[' :: inner ++ [']']) = .ok (.arr entries)

/-- The strategy of one entry: it is well formed, and its name, normalised, is not empty. -/
def usable? (entry : Json) : Option Strategy :=
  match ofJson? entry with
  | none => none
  | some s =>
    if normalizeName s.name.toList = [] then none
    else some { s with name := .ofList (normalizeName s.name.toList) }

/-- What is planned by an answer. -/
inductive Plans (answer : String) : List Strategy → Prop
  | entries {entries : List Json} (h : Proposes answer entries) :
    Plans answer (entries.filterMap usable?)
  | unusable (h : ∀ entries, ¬ Proposes answer entries) : Plans answer []

theorem bracketed?_of_append {before inner after : List Char} (hbefore : '[' ∉ before)
    (hafter : ']' ∉ after) :
    bracketed? (before ++ '[' :: inner ++ ']' :: after) = some ('[' :: inner ++ [']']) := by
  have hreverse : ('[' :: (inner ++ ']' :: after)).reverse =
      after.reverse ++ ']' :: ('[' :: inner).reverse := by simp
  rw [bracketed?, List.append_assoc, List.cons_append, Chars.dropWhile_ne_append hbefore]
  simp only [hreverse, Chars.dropWhile_ne_append (mt List.mem_reverse.1 hafter)]
  simp

theorem exists_of_bracketed? {s t : List Char} (h : bracketed? s = some t) :
    ∃ before inner after, s = before ++ '[' :: inner ++ ']' :: after ∧
      '[' ∉ before ∧ ']' ∉ after ∧ t = '[' :: inner ++ [']'] := by
  rw [bracketed?] at h
  cases hopen : s.dropWhile (· ≠ '[') with
  | nil =>
    rw [hopen] at h
    cases h
  | cons c rest =>
    obtain ⟨before, rfl, hbefore, rfl⟩ := Chars.exists_of_dropWhile_ne hopen
    rw [hopen] at h
    cases hclose : ('[' :: rest).reverse.dropWhile (· ≠ ']') with
    | nil =>
      simp only [hclose] at h
      cases h
    | cons d front =>
      obtain ⟨after, hreverse, hafter, rfl⟩ := Chars.exists_of_dropWhile_ne hclose
      simp only [hclose, Option.some.injEq] at h
      have hrest : '[' :: rest = front.reverse ++ ']' :: after.reverse := by
        rw [← List.reverse_reverse ('[' :: rest), hreverse]
        simp
      rw [List.reverse_cons] at h
      -- The bracket that closes is not the one that opens.
      cases hfront : front.reverse with
      | nil =>
        rw [hfront] at hrest
        cases hrest
      | cons first inner =>
        rw [hfront] at hrest h
        obtain ⟨rfl, rfl⟩ := List.cons.inj hrest
        refine ⟨before, inner, after.reverse, ?_, hbefore, mt List.mem_reverse.1 hafter, h.symm⟩
        rw [List.append_assoc]
        rfl

theorem bind_normalized? (entry : Json) : (ofJson? entry).bind normalized? = usable? entry := by
  rw [usable?]
  cases ofJson? entry with
  | none => rfl
  | some s => simp only [Option.bind_some, normalized?, List.isEmpty_iff]

theorem ofAnswer_of_proposes {answer : String} {entries : List Json} (h : Proposes answer entries) :
    ofAnswer answer = entries.filterMap usable? := by
  obtain ⟨before, inner, after, hanswer, hbefore, hafter, hparse⟩ := h
  have hbracketed : bracketed? answer.toList = some ('[' :: inner ++ [']']) := by
    rw [hanswer, bracketed?_of_append hbefore hafter]
  simp only [ofAnswer, hbracketed, Option.map_some, hparse, List.filterMap_filterMap,
    bind_normalized?]

theorem proposes_of_parseChars {answer : String} {entries : List Json}
    (h : (bracketed? answer.toList).map Json.parseChars = some (.ok (.arr entries))) :
    Proposes answer entries := by
  obtain ⟨t, ht, hparse⟩ := Option.map_eq_some_iff.1 h
  obtain ⟨before, inner, after, hanswer, hbefore, hafter, rfl⟩ := exists_of_bracketed? ht
  exact ⟨before, inner, after, hanswer, hbefore, hafter, hparse⟩

theorem ofAnswer_of_not_proposes {answer : String} (h : ∀ entries, ¬ Proposes answer entries) :
    ofAnswer answer = [] := by
  rw [ofAnswer]
  split
  · exact absurd (proposes_of_parseChars ‹_›) (h _)
  · rfl

/-- **An answer plans what is read from it,** and nothing else. -/
theorem plans_iff {answer : String} {planned : List Strategy} :
    Plans answer planned ↔ planned = ofAnswer answer := by
  constructor
  · rintro (h | h)
    · exact (ofAnswer_of_proposes h).symm
    · exact (ofAnswer_of_not_proposes h).symm
  · rintro rfl
    by_cases h : ∃ entries, Proposes answer entries
    · obtain ⟨entries, h⟩ := h
      rw [ofAnswer_of_proposes h]
      exact .entries h
    · rw [ofAnswer_of_not_proposes (not_exists.1 h)]
      exact .unusable (not_exists.1 h)

end Strategy

namespace Generation

open Chat Dialogue

variable {Cost : Type}

/-! ## What comes of a plan -/

/-- `Planned count completed result`: a plan for `count` strategies comes to `result` when its
completion has come to `completed`. -/
inductive Planned (count : Nat) : Except Failure (String × Option (Usage Cost)) →
    Except Failure (List Strategy × Option (Usage Cost)) → Prop
  /-- What the answer plans is filled up. -/
  | answered {answer : String} {usage : Option (Usage Cost)} {planned strategies : List Strategy}
      (hplans : Strategy.Plans answer planned) (hfills : Strategy.Fills count planned strategies) :
    Planned count (.ok (answer, usage)) (.ok (strategies, usage))
  /-- There was no answer that can be used, so all strategies are built-in ones. -/
  | unanswered {detail : String} {strategies : List Strategy}
      (hfills : Strategy.Fills count [] strategies) :
    Planned count (.error (.generation detail)) (.ok (strategies, none))
  | unreachable {detail : String} :
    Planned count (.error (.infrastructure detail)) (.error (.infrastructure detail))
  | unconfigured {detail : String} :
    Planned count (.error (.configuration detail)) (.error (.configuration detail))

variable [Add Cost]

/-- A plan is one completion, and what is made of it. -/
theorem exists_planned {σ : Type} (g : Generator) (samples : List Sample) (count : Nat)
    (answer : (q : Ask) → σ → Answer Cost q × σ) (state : σ) :
    let completion := (complete (g.setting [.system Prompt.instruction,
      .user (Prompt.plan samples count)] g.settings.generationTemperature)).run answer state
    ∃ result, (g.plan samples count).run answer state = (result, completion.2) ∧
      Planned count completion.1 result := by
  intro completion
  rw [Generator.plan, run_map]
  refine ⟨_, rfl, ?_⟩
  cases completion.1 with
  | ok answered => exact .answered (Strategy.plans_iff.2 rfl) (Strategy.fills_fillTo _ count)
  | error failure =>
    cases failure with
    | generation => exact .unanswered (Strategy.fills_fillTo [] count)
    | infrastructure => exact .unreachable
    | configuration => exact .unconfigured

/-- **A plan has what was asked for.** Without models it fails and asks nothing. With models it asks
for strategies and ends where the script has its completion end, and it fails only if the provider
cannot be used. Otherwise it has just as many strategies as were asked for, no two of one name: the
usable entries of the answer, the first of each name, as far as they are wanted, and then built-in
strategies, round by round. Filling up comes to an end whatever is planned, in no more than a round
for every three strategies that are asked for. -/
theorem planned_run (g : Generator) (samples : List Sample) (count : Nat) (script : Script Cost) :
    (g.models = [] → (g.plan samples count).run script.provider 0 =
      (.error (.configuration "no LLM models configured"), [], 0)) ∧
    (g.models ≠ [] → ∃ n completed result calls,
      (g.plan samples count).run script.provider 0 = (result, calls, n + 1) ∧
      Planned count completed result ∧
      Ending g.retry script n completed ∧
      (∀ k < n, ∀ r, ¬ Ending g.retry script k r) ∧
      n + 1 ≤ 1 + g.retry.network.maxRetries + g.retry.api.maxRetries +
        g.retry.emptyResponse.maxRetries ∧
      (requests calls).length = n + 1 ∧
      ∀ k request, (requests calls)[k]? = some request →
        IsRequest (g.setting [.system Prompt.instruction, .user (Prompt.plan samples count)]
          g.settings.generationTemperature) script k request) ∧
    ∀ planned : List Strategy, ∃ rounds, 3 * rounds < count + 3 ∧
      (∀ before < rounds,
        (Strategy.Filling.next^[before] (.start count planned)).out.length < count) ∧
      Strategy.fillTo planned count =
        (Strategy.Filling.next^[rounds] (.start count planned)).out ∧
      Strategy.Fills count planned (Strategy.fillTo planned count) := by
  obtain ⟨result, hrun, hplanned⟩ := exists_planned g samples count script.provider 0
  refine ⟨fun hmodels => ?_, fun hmodels => ?_,
    fun planned => Strategy.exists_rounds_fillTo planned count⟩
  · rw [Generator.plan, run_map, complete, completeFrom]
    simp [Generator.setting, hmodels, Dialogue.run, Failure.isFatal]
  · obtain ⟨n, completed, calls, hcomplete, hbound, hend, hfirst, -, hlength, hrequest⟩ :=
      complete_script (g.setting [.system Prompt.instruction, .user (Prompt.plan samples count)]
        g.settings.generationTemperature) hmodels script
    rw [hcomplete] at hrun hplanned
    exact ⟨n, completed, result, calls, hrun, hplanned, hend, hfirst, hbound, hlength, hrequest⟩

/-- Five entries, of which two can be used; the name of one of them is that of a built-in
strategy. -/
def partlyUsable : Completion Nat where
  text := "Here: [[\"Fast Path!\", \"by position\", \"slice\"], [\"hybrid_structured\"], 7, " ++
    "[\" fast path\", \"again\"], [\"--\"]] as asked."
  usage := some { totalTokens := 7, cost := some 3 }
  model := "large"

/-- An answer with nothing in it, then entries. -/
def planning : Script Nat
  | 0 => .ok emptyAnswer
  | _ => .ok partlyUsable

theorem ofAnswer_partlyUsable :
    Strategy.ofAnswer partlyUsable.text =
      [⟨"fast_path", "by position", "slice"⟩, ⟨"hybrid_structured", "", ""⟩,
        ⟨"fast_path", "again", ""⟩] := by
  decide +kernel

theorem fault?_partlyUsable : fault? (.ok partlyUsable) = none := by decide +kernel

/-- The second answer is read; what it plans comes first, and of the built-in strategies the one
that is planned already is left out. -/
theorem planned_run_partly :
    oneModel.models ≠ [] ∧ ∃ strategies calls,
      (oneModel.plan [] 5).run planning.provider 0 =
        (.ok (strategies, some { totalTokens := 9, cost := some 8 }), calls, 2) ∧
      strategies.take 2 =
        [⟨"fast_path", "by position", "slice"⟩, ⟨"hybrid_structured", "", ""⟩] ∧
      (strategies.drop 2).map (·.name) =
        ["string_ops_only", "split_based_tokenizer", "string_ops_only_2"] ∧
      (requests calls).map (·.messages) =
        List.replicate 2 [.system Prompt.instruction, .user (Prompt.plan [] 5)] := by
  have hmodels : oneModel.models ≠ [] := by decide
  refine ⟨hmodels, ?_⟩
  obtain ⟨n, completed, result, calls, hrun, hplanned, hend, hfirst, -, hlength, hrequest⟩ :=
    (planned_run oneModel [] 5 planning).2.1 hmodels
  have hlast : Ending oneModel.retry planning 1 (.ok (partlyUsable.text, planning.usage 2)) :=
    .accepted partlyUsable rfl fault?_partlyUsable
  have hn : n = 1 := by
    match n with
    | 0 => exact absurd hend (not_ending_of_retry fault?_emptyAnswer rfl (by decide) _)
    | 1 => rfl
    | n + 2 => exact absurd hlast (hfirst 1 (by omega) _)
  subst hn
  cases hend with
  | unusable e h hc | refused e h hc => cases fault?_partlyUsable.symm.trans h
  | emptied e h hc hn | unconnected e h hc hn | overloaded e h hc hn =>
    cases fault?_partlyUsable.symm.trans h
  | accepted completion h _ =>
    cases h
    cases hplanned with
    | @answered _ _ planned strategies hplans hfills =>
      rw [Strategy.plans_iff, ofAnswer_partlyUsable] at hplans
      subst hplans
      rw [hfills.unique (Strategy.fills_fillTo _ 5)] at hrun
      refine ⟨_, calls, hrun, by decide +kernel, by decide +kernel, ?_⟩
      match hcalls : requests calls, hlength with
      | [first, second], _ =>
        rw [hcalls] at hrequest
        have hone := (hrequest 0 first rfl).2.1
        have htwo := (hrequest 1 second rfl).2.1
        simp [hone, htwo, Generator.setting]

end Generation
end RemapSynth
