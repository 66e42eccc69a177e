/-
A repair loop with a validator in it: what comes to the engine, and what a
success means. Programs come to the validator on four ways, and the validator
is the only one to ask the engine; so what holds of one validation holds of
all that the engine is asked in a whole loop, however the loop ends.

The last validation of a loop that succeeds has passed, and it is the last
thing that is asked at all (`passed_last_of_history`). Its verdict is
therefore about the program that is reported, not about an earlier one.
-/
import RemapSynth.Proofs.Repair.Unfolding
import RemapSynth.Proofs.Validation

namespace RemapSynth.Repair

open Chat Generation Dialogue

variable {Cost : Type}

/-! ## A loop led with a validator -/

namespace Led

/-- What a loop asks that is led with a validator. -/
inductive Ask (Cost : Type)
  /-- A question of the loop to anybody but its validator. -/
  | other (q : Repair.Ask Cost)
  | engine (q : Engine.Ask)

abbrev Answer (Cost : Type) : Ask Cost → Type
  | .other q => Repair.Answer Cost q
  | .engine q => Engine.Answer q

/-- A question of a loop that is led with a validator, with the answer. -/
abbrev Call (Cost : Type) : Type := Exchange (Ask Cost) (Answer Cost)

/-- A call of the engine as a call of the loop. -/
def ofEngine (c : Validator.Call) : Call Cost := ⟨.engine c.1, c.2⟩

end Led

/-- The answer to a question of a loop: the validator asks the engine for its own, the others are
asked as they are, and nothing is kept from one question to the next. -/
def answerWith (v : Validator) :
    (q : Ask Cost) → Unit → Dialogue (Led.Ask Cost) (Led.Answer Cost) (Answer Cost q × Unit)
  | .validate code samples, s =>
    ((v.validate code (some samples)).via .engine fun _ answer => answer).map fun verdict =>
      (verdict, s)
  | .produce task, s => .ask (.other (.produce task)) fun answer => .done (answer, s)
  | .fix code message, s => .ask (.other (.fix code message)) fun answer => .done (answer, s)
  | .record usage, s => .ask (.other (.record usage)) fun answer => .done (answer, s)

/-- A course of a loop led with a validator. -/
def ledWith {α : Type} (v : Validator) (d : Course Cost α) :
    Dialogue (Led.Ask Cost) (Led.Answer Cost) α :=
  (d.through (answerWith v) ()).map (·.1)

section
variable {α : Type} {v : Validator} {d : Course Cost α} {calls : List (Led.Call Cost)} {r : α}

theorem history_ledWith :
    History (ledWith v d) calls r ↔
      ∃ loopCalls, History d loopCalls r ∧ Told (answerWith v) () loopCalls calls () := by
  simp only [ledWith, history_map]
  constructor
  · rintro ⟨⟨_, ⟨⟩⟩, h, rfl⟩
    exact history_through.1 h
  · intro h
    exact ⟨(r, ()), history_through.2 h, rfl⟩

/-- What a validation asks in a loop is what the validator asks of the engine. -/
theorem history_answerWith_validate {code : String} {samples : List Sample}
    {answer : Except Failure Verdict} {s t : Unit}
    (h : History (answerWith v (.validate code samples) s) calls (answer, t)) :
    ∃ asked, calls = asked.map Led.ofEngine ∧ v.Checked code samples asked answer := by
  obtain ⟨_, hvia, hanswer⟩ := history_map.1 h
  obtain ⟨asked, rfl, hvalidate⟩ := history_via.1 hvia
  rw [List.map_id'] at hvalidate
  cases hanswer
  exact ⟨asked, rfl, Validator.history_validate hvalidate⟩

/-- The engine is asked by the validator alone: what it is asked, at any place, it is asked in a
validation of the loop. -/
theorem exists_checked {before after : List (Led.Call Cost)} {q : Engine.Ask}
    {answer : Engine.Answer q}
    (h : History (ledWith v d) (before ++ ⟨.engine q, answer⟩ :: after) r) :
    ∃ code samples verdict earlier init rest,
      v.Checked code samples (init ++ ⟨q, answer⟩ :: rest) verdict ∧
        before = earlier ++ init.map Led.ofEngine := by
  obtain ⟨loopCalls, -, htold⟩ := history_ledWith.1 h
  obtain ⟨question, reply, s, s', earlier, init, rest, later, -, hasked, rfl, rfl⟩ := htold.split
  cases question with
  | validate code samples =>
    obtain ⟨asked, hasked, hchecked⟩ := history_answerWith_validate hasked
    obtain ⟨init, more, rfl, rfl, hmore⟩ := List.map_eq_append_iff.1 hasked.symm
    obtain ⟨⟨q', answer'⟩, rest, rfl, hq, rfl⟩ := List.map_eq_cons_iff.1 hmore
    cases hq
    exact ⟨code, samples, reply, earlier, init, rest, hchecked, rfl⟩
  | _ =>
    obtain ⟨_, _, hother, hdone⟩ := history_ask.1 hasked
    obtain ⟨rfl, -⟩ := history_done.1 hdone
    simpa using mem_of_split hother.symm

end

/-! ## A loop that succeeds -/

section
variable [Add Cost] {a : Assignment} {number : Nat} {isLast : Bool} {notes : Notes Cost}
  {pending : Pending} {calls : List (Call Cost)} {r : Option Record} {report : Report Cost}

theorem Judged.passed_last {code : String}
    (h : Judged a number isLast code notes calls r (.stop report)) (hs : report.success = true) :
    ∃ earlier v, calls = earlier ++ [⟨.validate report.code a.samples, .ok v⟩] ∧
      v.passed = true := by
  cases h with
  | passed v hv => exact ⟨[], v, rfl, hv⟩
  | exhausted | disabled => cases hs

theorem Turn.passed_last (h : Turn a number isLast notes pending calls r (.stop report))
    (hs : report.success = true) :
    ∃ earlier v, calls = earlier ++ [⟨.validate report.code a.samples, .ok v⟩] ∧
      v.passed = true := by
  cases h with
  | given h => exact h.passed_last hs
  | simplified g h =>
    obtain ⟨earlier, v, rfl, hv⟩ := h.passed_last hs
    exact ⟨_ :: _ :: earlier, v, rfl, hv⟩

/-- **The last call of a loop that succeeds is the validation of its program, which passes.** -/
theorem passed_last_of_history (h : History (run a) calls (.ok report))
    (hs : report.success = true) :
    ∃ earlier v, calls = earlier ++ [⟨.validate report.code a.samples, .ok v⟩] ∧
      v.passed = true := by
  obtain ⟨rounds, opening, pending, notes, going, final, notes', -, -, hend, -, rfl, rfl⟩ :=
    exists_unfolds h
  cases hend with
  | stopped h hr =>
    obtain ⟨earlier, v, rfl, hv⟩ := (turn_of_history h (congrArg some hr)).passed_last hs
    exact ⟨opening ++ callsOf going ++ earlier, v, by simp, hv⟩
  | spent => cases hs

/-- **What comes to the engine, and what a success means.** However a loop ends, the engine is only
asked about programs that the policy permits, and runs none that it has not accepted just before,
where it can compile. A loop that succeeds reports a program that the policy permits, and the last
that was asked at all is that the engine compiles this very program and runs it without fault on the
first samples, as far as these checks are switched on. -/
theorem led_run_sound {v : Validator} {calls : List (Led.Call Cost)}
    {result : Except Failure (Report Cost)} (h : History (ledWith v (run a)) calls result) :
    (∀ q answer, ⟨.engine q, answer⟩ ∈ calls → v.Permits q.program) ∧
    (v.compiles = true → ∀ before code samples answer after,
      calls = before ++ ⟨.engine (.execute code samples), answer⟩ :: after →
        ∃ earlier c, before = earlier ++ [⟨.engine (.compile code), .ok c⟩] ∧ c.ok = true) ∧
    ∀ report, result = .ok report → report.success = true →
      v.Permits report.code ∧ ∃ before compiling running, calls = before ++ compiling ++ running ∧
        (v.compiles = true → ∃ c, compiling = [⟨.engine (.compile report.code), .ok c⟩] ∧
          c.ok = true) ∧
        (v.runs a.samples = true → ∃ output,
          running = [⟨.engine (.execute report.code
            (a.samples.take (min (max v.settings.sampleLimit 1) a.samples.length))), .ok output⟩] ∧
            output.errorText = none ∧ 1 ≤ output.recordsOut) := by
  refine ⟨?_, ?_, ?_⟩
  · intro q answer hm
    obtain ⟨before, after, rfl⟩ := List.append_of_mem hm
    obtain ⟨code, samples, verdict, earlier, init, rest, hchecked, -⟩ := exists_checked h
    obtain ⟨hprogram, hpermits⟩ := hchecked.permits (mem_of_split rfl)
    exact hprogram ▸ hpermits
  · rintro hcompiles before code samples answer after rfl
    obtain ⟨_, _, _, earlier, init, rest, hchecked, rfl⟩ := exists_checked h
    obtain ⟨c, rfl, hok⟩ := hchecked.compiled_before hcompiles
    exact ⟨earlier, c, rfl, hok⟩
  · rintro report rfl hs
    obtain ⟨loopCalls, hrun, htold⟩ := history_ledWith.1 h
    obtain ⟨earlier, verdict, rfl, hpassed⟩ := passed_last_of_history hrun hs
    obtain ⟨s, before, last, rfl, hlast⟩ := htold.concat
    obtain ⟨asked, rfl, hchecked⟩ := history_answerWith_validate hlast
    obtain ⟨hpermits, compiling, running, rfl, hcompiled, hran⟩ := hchecked.passed hpassed
    refine ⟨hpermits, before, compiling.map Led.ofEngine, running.map Led.ofEngine, by simp, ?_, ?_⟩
    · intro hcompiles
      obtain ⟨c, rfl, hok⟩ := hcompiled hcompiles
      exact ⟨c, rfl, hok⟩
    · intro hruns
      obtain ⟨output, rfl, herror, hout⟩ := hran hruns
      refine ⟨output, ?_, herror, hout⟩
      rw [← List.take_eq_take_min]
      rfl

end

/-! ## A program that the policy forbids -/

/-- A validator with all checks, which allows no call of `match`. -/
def strict : Validator := ⟨{}, ⟨["match"], [], []⟩, true, true⟩

/-- A loop with one sample. -/
def strictTrial : Assignment where
  settings := {}
  samples := [.ofMessage "a"]
  strategy := none
  baseline := none

/-- A seed that is forbidden, and so is not compiled; what the rules make of it passes. -/
def strictCalls : List (Led.Call Nat) :=
  [⟨.other (.produce strictTrial.first), .ok ⟨"match(.)", none⟩⟩, ⟨.other (.record none), ()⟩,
    ⟨.other (.fix "match(.)" (strict.policy.rejectionMessage ["match"])), some ". = 1"⟩,
    ⟨.engine (.compile ". = 1"), .ok .passed⟩,
    ⟨.engine (.execute ". = 1" [.ofMessage "a"]), .ok ⟨1, none, false, ⟨0⟩⟩⟩]

/-- What `strictCalls` come to. -/
def strictReport : Report Nat where
  code := ". = 1"
  success := true
  iterations := 2
  records :=
    [⟨1, some .rejectedConstruct, true, some .localFix⟩, ⟨2, none, false, some .validated⟩]
  failedPatterns := []
  lastError := none
  lastDiagnosis := none
  usage := none

theorem strict_history :
    History (ledWith strict (run strictTrial)) strictCalls (.ok strictReport) := by
  repeat refine .ask _ _ _ ?_
  exact .done _

theorem led_run_sound_strict :
    History (ledWith strict (run strictTrial)) strictCalls (.ok strictReport) ∧
    (∀ q answer, ⟨.engine q, answer⟩ ∈ strictCalls → strict.Permits q.program) ∧
    strict.Permits ". = 1" ∧ ∃ before c output,
      strictCalls = before ++ [⟨.engine (.compile ". = 1"), .ok c⟩] ++
        [⟨.engine (.execute ". = 1" (strictTrial.samples.take 1)), .ok output⟩] ∧
      c.ok = true ∧ output.errorText = none ∧ 1 ≤ output.recordsOut := by
  obtain ⟨hengine, -, hsuccess⟩ := led_run_sound strict_history
  obtain ⟨hpermits, before, compiling, running, hcalls, hcompiled, hran⟩ :=
    hsuccess strictReport rfl rfl
  obtain ⟨c, rfl, hok⟩ := hcompiled rfl
  obtain ⟨output, rfl, herror, hout⟩ := hran rfl
  exact ⟨strict_history, hengine, hpermits, before, c, output, hcalls, hok, herror, hout⟩

end RemapSynth.Repair
