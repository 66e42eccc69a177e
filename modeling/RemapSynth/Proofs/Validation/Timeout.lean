/-
What validation makes of an engine that took too long. When compiling did,
the verdict is a timeout unless the text of the engine has a tag. When a run
did, the verdict depends on what had come out by then: nothing, and it is a
timeout; anything, and the program passes (`history_timeout`).
-/
import RemapSynth.Proofs.Diagnosis
import RemapSynth.Proofs.Engine.Watch
import RemapSynth.Proofs.Text.Lines
import RemapSynth.Proofs.Validation

namespace RemapSynth.Validator

open Engine Dialogue

variable {v : Validator} {code : String} {calls : List Call}
  {result : Except Failure Verdict}

/-- The verdict on compiling that took too long. -/
theorem compileVerdict?_of_timedOut {c : Compilation} (hok : c.ok = false)
    (htime : c.timedOut = true) :
    compileVerdict? c =
      some (.fail (Diagnosis.timeoutStart ++ " " ++ c.errorText.getD "")) := by
  simp [compileVerdict?, hok, htime]

/-- What the verdict says on a run that took too long and had no events come out. -/
def timeoutMessage (v : Validator) : String :=
  Diagnosis.timeoutStart ++ " engine produced no events within " ++
    Nat.repr v.settings.timeout.seconds ++ "s"

theorem ofMessage_timeoutMessage (v : Validator) :
    Diagnosis.ofMessage v.timeoutMessage = .timeout := by
  have hwords : " engine produced no events within " =
      " " ++ "engine produced no events within " := by decide
  have hplain : '[' ∉ "engine produced no events within ".toList := by decide
  have hdigits : '[' ∉ (Nat.repr v.settings.timeout.seconds).toList :=
    Chars.not_mem_repr (by decide) _
  rw [timeoutMessage, hwords, ← String.append_assoc, String.append_assoc, String.append_assoc,
    Diagnosis.ofMessage_timeout_iff]
  refine Diagnosis.taggedNumber?_eq_none ?_
  simp only [String.toList_append, List.mem_append, not_or]
  exact ⟨hplain, hdigits, by decide⟩

theorem runVerdict?_of_timedOut {o : RunOutput} (herror : o.errorText = none)
    (htime : o.timedOut = true) :
    v.runVerdict? o = if o.recordsOut = 0 then some (.fail v.timeoutMessage) else none := by
  simp [runVerdict?, herror, htime, timeoutMessage]

/-- So the verdict on a run that was stopped when its time was up goes by its events alone. -/
theorem runVerdict?_of_outOfTime (r : Remains) (expected : Nat) :
    v.runVerdict? (.ofMeasured ((Observation.ofHalt .outOfTime r).measured expected)) =
      if r.recordsOut = 0 then some (.fail v.timeoutMessage) else none :=
  runVerdict?_of_timedOut rfl rfl

/-- **What validation makes of an engine that took too long.** It is never a failure of the
validation itself. A program whose compilation took too long does not pass, and the verdict is a
timeout just when there is no tag in the text of the engine. A program whose run took too long gets
a timeout when no event had come out by then, and passes when any had. -/
theorem history_timeout {samples : Option (List Sample)}
    (h : History (v.validate code samples) calls result) :
    (∀ code' c, (⟨.compile code', .ok c⟩ : Call) ∈ calls → c.ok = false → c.timedOut = true →
      ∃ verdict, result = .ok verdict ∧ verdict.passed = false ∧
        (verdict.diagnosis = some .timeout ↔
          Diagnosis.taggedNumber? (c.errorText.getD "").toList = none)) ∧
    (∀ code' given o, (⟨.execute code' given, .ok o⟩ : Call) ∈ calls → o.timedOut = true →
      o.errorText = none →
        if o.recordsOut = 0 then
          result = .ok ⟨false, some v.timeoutMessage, some .timeout⟩
        else result = .ok .pass) := by
  have hchecked := history_validate h
  refine ⟨fun code' c hc hok htime => ?_, fun code' given o ho htime herror => ?_⟩
  · obtain ⟨verdict, hverdict, hresult⟩ := hchecked.result_of_compile hc hok
    rw [compileVerdict?_of_timedOut hok htime, Option.some.injEq] at hverdict
    subst hverdict
    refine ⟨_, hresult, rfl, ?_⟩
    rw [Verdict.fail, Option.some.injEq]
    exact Diagnosis.ofMessage_timeout_iff
  · rw [hchecked.result_of_execute ho, runVerdict?_of_timedOut herror htime]
    split
    case isTrue =>
      rw [Option.getD_some, Verdict.fail, ofMessage_timeoutMessage]
    case isFalse => rfl

/-- A validator with an engine and nothing forbidden. -/
def hasty : Validator := ⟨{}, ⟨[], [], []⟩, true, true⟩

/-- The answers of an engine that compiles a program in time but runs it for too long. -/
def hastyCalls (recordsOut : Nat) : List Call :=
  [⟨.compile ".", .ok .passed⟩,
    ⟨.execute "." [.ofMessage "a"], .ok ⟨recordsOut, none, true, .ofSeconds 30⟩⟩]

theorem hasty_history (recordsOut : Nat) :
    History (hasty.validate "." (some [.ofMessage "a"])) (hastyCalls recordsOut)
      (.ok ((hasty.runVerdict? ⟨recordsOut, none, true, .ofSeconds 30⟩).getD .pass)) :=
  .ask _ _ _ (.ask _ _ _ (.done _))

/-- The answer of an engine that compiles a program for too long. -/
def hastyCompilation : Compilation := ⟨false, some "compile check exceeded 30s", true⟩

theorem hasty_compile_history :
    History (hasty.validate "." (some [.ofMessage "a"])) [⟨.compile ".", .ok hastyCompilation⟩]
      (.ok (.fail "TIMEOUT: compile check exceeded 30s")) :=
  .ask _ _ _ (.done _)

/-- Compiling for too long and running for too long without any event are timeouts. Running for too
long with one event is none. -/
theorem history_timeout_hasty :
    (Verdict.fail "TIMEOUT: compile check exceeded 30s").diagnosis = some .timeout ∧
    (hasty.runVerdict? ⟨0, none, true, .ofSeconds 30⟩).getD .pass =
      ⟨false, some hasty.timeoutMessage, some .timeout⟩ ∧
    (hasty.runVerdict? ⟨1, none, true, .ofSeconds 30⟩).getD .pass = .pass := by
  obtain ⟨hcompile, -⟩ := history_timeout hasty_compile_history
  obtain ⟨-, hnone⟩ := history_timeout (hasty_history 0)
  obtain ⟨-, hone⟩ := history_timeout (hasty_history 1)
  refine ⟨?_, ?_, ?_⟩
  · obtain ⟨verdict, hverdict, -, htime⟩ :=
      hcompile "." hastyCompilation List.mem_cons_self rfl rfl
    cases hverdict
    exact htime.2 (by decide)
  · exact Except.ok.inj (hnone "." _ _ (List.mem_cons_of_mem _ List.mem_cons_self) rfl rfl)
  · exact Except.ok.inj (hone "." _ _ (List.mem_cons_of_mem _ List.mem_cons_self) rfl rfl)

end RemapSynth.Validator
