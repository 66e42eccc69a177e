/-
How a program is validated: `Checked` lists every way, and
`history_validate` says that there is no other.

A program that the policy forbids never comes to the engine, and the engine
runs no program that it has not just compiled, where it can compile. So a
verdict that passes says that every check has passed that is switched on.
-/
import RemapSynth.Proofs.Dialogue
import RemapSynth.Validation

namespace RemapSynth

/-- The program that a question to an engine is about. -/
def Engine.Ask.program : Engine.Ask → String
  | .compile code => code
  | .execute code _ => code
  | .measure code _ _ => code

namespace Validator

open Engine Dialogue

/-- A question to an engine together with its answer. -/
abbrev Call : Type := Exchange Ask Answer

variable {v : Validator} {code : String} {samples : List Sample} {calls : List Call}
  {result : Except Failure Verdict} {verdict : Verdict}

/-! ## Each check by itself -/

/-- The policy has nothing against a program, as far as its checks are switched on. -/
structure Permits (v : Validator) (code : String) : Prop where
  conflicts : v.settings.fieldConflictCheck = true → v.policy.findConflicts code = []
  rejected : v.settings.rejectedConstructCheck = true → v.policy.findRejected code = []

/-- Whether programs are compiled. -/
def compiles (v : Validator) : Bool := v.canCompile && v.settings.checkerEnabled

/-- Whether programs are run on samples. -/
def runs (v : Validator) (samples : List Sample) : Bool :=
  v.canRun && v.settings.runnerEnabled && !samples.isEmpty

/-- Without reserved fields nothing collides. -/
theorem findConflicts_of_reserved_eq_nil {p : Policy} (h : p.reserved = []) (code : String) :
    p.findConflicts code = [] := by
  simp [Policy.findConflicts, Policy.collision?, h]

theorem conflicts_of_conflictVerdict? (h : v.conflictVerdict? code = none)
    (hon : v.settings.fieldConflictCheck = true) : v.policy.findConflicts code = [] := by
  by_cases hreserved : v.policy.reserved = []
  · exact findConflicts_of_reserved_eq_nil hreserved code
  · simpa [conflictVerdict?, hon, hreserved] using h

theorem rejected_of_rejectionVerdict? (h : v.rejectionVerdict? code = none)
    (hon : v.settings.rejectedConstructCheck = true) : v.policy.findRejected code = [] := by
  simpa [rejectionVerdict?, hon] using h

theorem compileVerdict?_eq_none_iff {c : Compilation} : compileVerdict? c = none ↔ c.ok = true := by
  simp [compileVerdict?]

theorem passed_of_compileVerdict? {c : Compilation} (h : compileVerdict? c = some verdict) :
    verdict.passed = false := by
  cases hok : c.ok
  · simp only [compileVerdict?, hok, Bool.false_eq_true, if_false, Option.some.injEq] at h
    exact h ▸ rfl
  · simp [compileVerdict?_eq_none_iff.2 hok] at h

/-- A run passes when the engine turned nothing down and something came out. -/
theorem passed_runVerdict?_iff {o : RunOutput} :
    ((v.runVerdict? o).getD .pass).passed = true ↔ o.errorText = none ∧ 1 ≤ o.recordsOut := by
  cases herror : o.errorText with
  | some text => simp [runVerdict?, herror, Verdict.fail]
  | none =>
    by_cases hzero : o.recordsOut = 0
    · simp [runVerdict?, herror, hzero, Verdict.fail]
    · simp [runVerdict?, herror, hzero, Verdict.pass]
      omega

theorem passed_of_conflictVerdict? (h : v.conflictVerdict? code = some verdict) :
    verdict.passed = false := by
  simp only [conflictVerdict?] at h
  split at h
  · cases h
  · split at h
    · cases h
    · cases h
      rfl

theorem passed_of_rejectionVerdict? (h : v.rejectionVerdict? code = some verdict) :
    verdict.passed = false := by
  simp only [rejectionVerdict?] at h
  split at h
  · cases h
  · split at h
    · cases h
    · cases h
      rfl

/-! ## All checks in order -/

/-- The run of a program on samples: what is asked, and what comes of it. -/
inductive RunChecked (v : Validator) (code : String) (samples : List Sample) :
    List Call → Except Failure Verdict → Prop
  | skipped (h : v.runs samples = false) : RunChecked v code samples [] (.ok .pass)
  | broken (h : v.runs samples = true) (failure : Failure) :
    RunChecked v code samples [⟨.execute code (v.runSamples samples), .error failure⟩]
      (.error failure)
  | ran (h : v.runs samples = true) (output : RunOutput) :
    RunChecked v code samples [⟨.execute code (v.runSamples samples), .ok output⟩]
      (.ok ((v.runVerdict? output).getD .pass))

/-- The checks of a program by the engine: what is asked, and what comes of it. -/
inductive EngineChecked (v : Validator) (code : String) (samples : List Sample) :
    List Call → Except Failure Verdict → Prop
  | uncompiled {calls : List Call} {result : Except Failure Verdict} (h : v.compiles = false)
      (hrun : RunChecked v code samples calls result) : EngineChecked v code samples calls result
  | broken (h : v.compiles = true) (failure : Failure) :
    EngineChecked v code samples [⟨.compile code, .error failure⟩] (.error failure)
  | refused (h : v.compiles = true) (c : Compilation) (verdict : Verdict)
      (hc : compileVerdict? c = some verdict) :
    EngineChecked v code samples [⟨.compile code, .ok c⟩] (.ok verdict)
  | compiled {calls : List Call} {result : Except Failure Verdict} (h : v.compiles = true)
      (c : Compilation) (hc : c.ok = true) (hrun : RunChecked v code samples calls result) :
    EngineChecked v code samples (⟨.compile code, .ok c⟩ :: calls) result

/-- The validation of a program: what is asked of the engine, and what comes of it. -/
inductive Checked (v : Validator) (code : String) (samples : List Sample) :
    List Call → Except Failure Verdict → Prop
  | conflicting (verdict : Verdict) (h : v.conflictVerdict? code = some verdict) :
    Checked v code samples [] (.ok verdict)
  | rejected (verdict : Verdict) (hc : v.conflictVerdict? code = none)
      (h : v.rejectionVerdict? code = some verdict) : Checked v code samples [] (.ok verdict)
  | permitted {calls : List Call} {result : Except Failure Verdict}
      (hc : v.conflictVerdict? code = none) (hr : v.rejectionVerdict? code = none)
      (h : EngineChecked v code samples calls result) :
    Checked v code samples calls result

theorem history_checkRun {samples : Option (List Sample)}
    (h : History (v.checkRun code samples) calls result) :
    RunChecked v code (samples.getD []) calls result := by
  have hskip : (!v.canRun || !v.settings.runnerEnabled || (samples.getD []).isEmpty) =
      !v.runs (samples.getD []) := by
    simp [runs, Bool.not_and]
  simp only [checkRun, hskip] at h
  cases hruns : v.runs (samples.getD []) with
  | false =>
    simp only [hruns, Bool.not_false, if_true, history_done] at h
    obtain ⟨rfl, rfl⟩ := h
    exact .skipped hruns
  | true =>
    simp only [hruns, Bool.not_true, Bool.false_eq_true, if_false, history_ask] at h
    obtain ⟨failure | output, rest, rfl, h⟩ := h
    · obtain ⟨rfl, rfl⟩ := history_done.1 h
      exact .broken hruns failure
    · obtain ⟨rfl, rfl⟩ := history_done.1 h
      exact .ran hruns output

theorem history_checkEngine {samples : Option (List Sample)}
    (h : History (v.checkEngine code samples) calls result) :
    EngineChecked v code (samples.getD []) calls result := by
  have hskip : (!v.canCompile || !v.settings.checkerEnabled) = !v.compiles := by
    simp [compiles, Bool.not_and]
  simp only [checkEngine, hskip] at h
  cases hcompiles : v.compiles with
  | false =>
    simp only [hcompiles, Bool.not_false, if_true] at h
    exact .uncompiled hcompiles (history_checkRun h)
  | true =>
    simp only [hcompiles, Bool.not_true, Bool.false_eq_true, if_false, history_ask] at h
    obtain ⟨failure | c, rest, rfl, h⟩ := h
    · obtain ⟨rfl, rfl⟩ := history_done.1 h
      exact .broken hcompiles failure
    · cases hc : compileVerdict? c with
      | some verdict =>
        simp only [hc] at h
        obtain ⟨rfl, rfl⟩ := history_done.1 h
        exact .refused hcompiles c verdict hc
      | none =>
        simp only [hc] at h
        exact .compiled hcompiles c (compileVerdict?_eq_none_iff.1 hc) (history_checkRun h)

/-- **Every validation goes one of these ways.** -/
theorem history_validate {samples : Option (List Sample)}
    (h : History (v.validate code samples) calls result) :
    Checked v code (samples.getD []) calls result := by
  simp only [validate] at h
  cases hc : v.conflictVerdict? code with
  | some verdict =>
    simp only [hc] at h
    obtain ⟨rfl, rfl⟩ := history_done.1 h
    exact .conflicting verdict hc
  | none =>
    cases hr : v.rejectionVerdict? code with
    | some verdict =>
      simp only [hc, hr] at h
      obtain ⟨rfl, rfl⟩ := history_done.1 h
      exact .rejected verdict hc hr
    | none =>
      simp only [hc, hr] at h
      exact .permitted hc hr (history_checkEngine h)

/-! ## What the engine is asked -/

theorem RunChecked.program_eq (h : RunChecked v code samples calls result) {c : Call}
    (hc : c ∈ calls) : c.1.program = code := by
  cases h <;> simp_all [Ask.program]

theorem EngineChecked.program_eq (h : EngineChecked v code samples calls result) {c : Call}
    (hc : c ∈ calls) : c.1.program = code := by
  cases h with
  | uncompiled h hrun => exact hrun.program_eq hc
  | compiled h c hok hrun =>
    rcases List.mem_cons.1 hc with rfl | hc
    · rfl
    · exact hrun.program_eq hc
  | _ => simp_all [Ask.program]

/-- **The engine is asked only about the program itself, and only when the policy permits it.** -/
theorem Checked.permits (h : Checked v code samples calls result) {c : Call} (hc : c ∈ calls) :
    c.1.program = code ∧ v.Permits code := by
  cases h with
  | permitted hconflict hreject h =>
    exact ⟨h.program_eq hc, conflicts_of_conflictVerdict? hconflict,
      rejected_of_rejectionVerdict? hreject⟩
  | _ => simp at hc

theorem RunChecked.of_split {before after : List Call} {c : Call}
    (h : RunChecked v code samples (before ++ c :: after) result) : before = [] := by
  generalize hcalls : before ++ c :: after = calls at h
  cases h with
  | skipped h => simp at hcalls
  | _ => exact (eq_last_of_split [] hcalls.symm (by simp)).1

theorem EngineChecked.compiled_before {before after : List Call} {code' : String}
    {samples' : List Sample} {answer : Answer (.execute code' samples')}
    (h : EngineChecked v code samples (before ++ ⟨.execute code' samples', answer⟩ :: after) result)
    (hcompiles : v.compiles = true) :
    ∃ c, before = [⟨.compile code', .ok c⟩] ∧ c.ok = true := by
  generalize hcalls : before ++ ⟨.execute code' samples', answer⟩ :: after = calls at h
  cases h with
  | uncompiled h => simp [h] at hcompiles
  | broken | refused => simpa using mem_of_split hcalls.symm
  | compiled h c hok hrun =>
    obtain ⟨rest, hcompile, -⟩ | ⟨init, rfl, rfl⟩ := split_of_append_eq [_] hcalls.symm
    · simpa using mem_of_split hcompile
    · obtain rfl : code' = code := hrun.program_eq (mem_of_split rfl)
      obtain rfl := hrun.of_split
      exact ⟨c, rfl, hok⟩

/-- **What is run was compiled just before**, where programs are compiled. -/
theorem Checked.compiled_before {before after : List Call} {code' : String}
    {samples' : List Sample} {answer : Answer (.execute code' samples')}
    (h : Checked v code samples (before ++ ⟨.execute code' samples', answer⟩ :: after) result)
    (hcompiles : v.compiles = true) :
    ∃ c, before = [⟨.compile code', .ok c⟩] ∧ c.ok = true := by
  generalize hcalls : before ++ ⟨.execute code' samples', answer⟩ :: after = calls at h
  cases h with
  | permitted hc hr h => exact (hcalls ▸ h).compiled_before hcompiles
  | _ => simp at hcalls

/-! ## The answer that decides -/

section
variable {code' : String} {given : List Sample}

theorem RunChecked.not_mem_compile (h : RunChecked v code samples calls result)
    (answer : Answer (.compile code')) : (⟨.compile code', answer⟩ : Call) ∉ calls := by
  intro hmem
  cases h with
  | skipped => cases hmem
  | broken | ran => cases List.mem_singleton.1 hmem

theorem RunChecked.result_of_execute (h : RunChecked v code samples calls result) {o : RunOutput}
    (ho : (⟨.execute code' given, .ok o⟩ : Call) ∈ calls) :
    result = .ok ((v.runVerdict? o).getD .pass) := by
  cases h with
  | skipped => cases ho
  | broken => cases List.mem_singleton.1 ho
  | ran =>
    cases List.mem_singleton.1 ho
    rfl

theorem EngineChecked.result_of_compile (h : EngineChecked v code samples calls result)
    {c : Compilation} (hc : (⟨.compile code', .ok c⟩ : Call) ∈ calls) (hok : c.ok = false) :
    ∃ verdict, compileVerdict? c = some verdict ∧ result = .ok verdict := by
  cases h with
  | uncompiled _ hrun => exact absurd hc (hrun.not_mem_compile _)
  | broken => cases List.mem_singleton.1 hc
  | refused _ _ verdict hverdict =>
    cases List.mem_singleton.1 hc
    exact ⟨verdict, hverdict, rfl⟩
  | compiled _ _ hcompiled hrun =>
    rcases List.mem_cons.1 hc with hc | hc
    · cases hc
      rw [hok] at hcompiled
      cases hcompiled
    · exact absurd hc (hrun.not_mem_compile _)

theorem EngineChecked.result_of_execute (h : EngineChecked v code samples calls result)
    {o : RunOutput} (ho : (⟨.execute code' given, .ok o⟩ : Call) ∈ calls) :
    result = .ok ((v.runVerdict? o).getD .pass) := by
  cases h with
  | uncompiled _ hrun => exact hrun.result_of_execute ho
  | broken | refused => cases List.mem_singleton.1 ho
  | compiled _ _ _ hrun =>
    rcases List.mem_cons.1 ho with ho | ho
    · cases ho
    · exact hrun.result_of_execute ho

/-- **A program that does not compile gets the verdict on its compilation.** -/
theorem Checked.result_of_compile (h : Checked v code samples calls result) {c : Compilation}
    (hc : (⟨.compile code', .ok c⟩ : Call) ∈ calls) (hok : c.ok = false) :
    ∃ verdict, compileVerdict? c = some verdict ∧ result = .ok verdict := by
  cases h with
  | conflicting | rejected => cases hc
  | permitted _ _ h => exact h.result_of_compile hc hok

/-- **A program that was run gets the verdict on its run.** -/
theorem Checked.result_of_execute (h : Checked v code samples calls result) {o : RunOutput}
    (ho : (⟨.execute code' given, .ok o⟩ : Call) ∈ calls) :
    result = .ok ((v.runVerdict? o).getD .pass) := by
  cases h with
  | conflicting | rejected => cases ho
  | permitted _ _ h => exact h.result_of_execute ho

end

/-! ## A verdict that passes -/

/-- What a run asks that finds no fault. -/
theorem RunChecked.passed (h : RunChecked v code samples calls (.ok verdict))
    (hpassed : verdict.passed = true) (hruns : v.runs samples = true) :
    ∃ output, calls = [⟨.execute code (v.runSamples samples), .ok output⟩] ∧
      output.errorText = none ∧ 1 ≤ output.recordsOut := by
  cases h with
  | skipped h => simp [h] at hruns
  | ran h output => exact ⟨output, rfl, passed_runVerdict?_iff.1 hpassed⟩

/-- **A program that passes has passed every check there is.** The policy permits it; the engine
has compiled it and has run it without fault, as far as these checks are switched on, and was asked
nothing else. -/
theorem Checked.passed (h : Checked v code samples calls (.ok verdict))
    (hpassed : verdict.passed = true) :
    v.Permits code ∧ ∃ compiling running, calls = compiling ++ running ∧
      (v.compiles = true → ∃ c, compiling = [⟨.compile code, .ok c⟩] ∧ c.ok = true) ∧
      (v.runs samples = true → ∃ output,
        running = [⟨.execute code (v.runSamples samples), .ok output⟩] ∧
          output.errorText = none ∧ 1 ≤ output.recordsOut) := by
  cases h with
  | conflicting _ h => simp [passed_of_conflictVerdict? h] at hpassed
  | rejected _ hc h => simp [passed_of_rejectionVerdict? h] at hpassed
  | permitted hc hr h =>
    refine ⟨⟨conflicts_of_conflictVerdict? hc, rejected_of_rejectionVerdict? hr⟩, ?_⟩
    cases h with
    | refused _ c _ h => simp [passed_of_compileVerdict? h] at hpassed
    | uncompiled h hrun => exact ⟨[], _, rfl, by simp [h], hrun.passed hpassed⟩
    | compiled h c hok hrun => exact ⟨[_], _, rfl, fun _ => ⟨c, rfl, hok⟩, hrun.passed hpassed⟩

end Validator
end RemapSynth
