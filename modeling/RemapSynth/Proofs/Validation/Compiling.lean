/-
What is reported of a program that does not compile. Two things are read off
the output of the engine: whether the program compiled, for which failures at
run time do not count, and the line that is reported, for which they do. So
the line that is reported is the first that carries a code; it need not be
one of those for which the program was refused (`history_reported`).
-/
import RemapSynth.Proofs.Validation.Pipeline

namespace RemapSynth

namespace Engine

variable {o : Output} {line : List Char}

/-- A line because of which a program counts as one that does not compile. -/
def IsFault (line : List Char) : Prop := isCoded line = true ∧ isRuntime line = false

/-- Trimming a line makes no difference to whether it is a failure at run time. -/
theorem isRuntime_trim (line : List Char) : isRuntime (Chars.trim line) = isRuntime line := by
  rw [isRuntime, isRuntime, Chars.contains_trim (by decide) (by decide) (by decide),
    Chars.contains_trim (by decide) (by decide) (by decide)]

/-- Output that is one line with a code is that of a program that compiled just when the line is a
failure at run time. -/
theorem compiled_line (hcoded : isCoded line = true) (hline : '\n' ∉ line) (succeeded : Bool) :
    compiled succeeded line = isRuntime line := by
  have hne : line ≠ [] := by
    rintro rfl
    cases hcoded
  simp [compiled, Chars.lines_of_not_mem hline hne, hcoded]

theorem compiled_eq_false {output : List Char}
    (h : ∃ line ∈ Chars.lines output, IsFault line) (succeeded : Bool) :
    compiled succeeded output = false := by
  obtain ⟨line, hline, hcoded, hruntime⟩ := h
  have hmem : line ∈ (Chars.lines output).filter isCoded := List.mem_filter.2 ⟨hline, hcoded⟩
  have hne : ((Chars.lines output).filter isCoded).isEmpty = false :=
    List.isEmpty_eq_false_iff.2 (List.ne_nil_of_mem hmem)
  simp only [compiled, hne, Bool.false_eq_true, if_false]
  exact List.all_eq_false.2 ⟨line, hmem, by simp [hruntime]⟩

/-- Output with a code in it is kept as it is, unless it is too long. -/
theorem compileErrorText_eq (hlength : o.combined.length ≤ maxErrorText)
    (h : ∃ line ∈ Chars.lines o.combined.toList, isCoded line = true) :
    compileErrorText o = o.combined := by
  obtain ⟨line, hline, hcoded⟩ := h
  have hmem : 'e' ∈ o.combined.toList := by
    have hin := (Chars.contains_iff_infix.1 hcoded).subset (by decide : 'e' ∈ "error[E".toList)
    exact Chars.mem_of_mem_lines hline hin
  have hblank : Text.isBlankText o.combined = false := by
    rw [Text.isBlankText, Chars.isBlank, List.all_eq_false]
    exact ⟨'e', hmem, by decide⟩
  have hchars : o.combined.toList.length ≤ maxErrorText := by rwa [String.length_toList]
  simp [compileErrorText, hblank, Text.truncate, Chars.truncate, hchars]

theorem ofOutput_eq (htime : o.timedOut = false) (hlength : o.combined.length ≤ maxErrorText)
    (h : ∃ line ∈ Chars.lines o.combined.toList, IsFault line) (timeout : Duration) :
    Compilation.ofOutput timeout o = .failed o.combined := by
  have hcoded : ∃ line ∈ Chars.lines o.combined.toList, isCoded line = true :=
    h.imp fun _ hline => ⟨hline.1, hline.2.1⟩
  simp [Compilation.ofOutput, htime, compiled_eq_false h, compileErrorText_eq hlength hcoded]

theorem firstErrorLine_eq {text : String}
    (h : (Chars.lines text.toList).find? isCoded = some line) :
    firstErrorLine text = .ofList (Chars.trim line) := by
  simp [firstErrorLine, h]

end Engine

namespace Validator

open Engine Dialogue

variable {v : Validator} {code code' : String} {calls : List Call}
  {result : Except Failure Verdict}

/-- **What is reported of a program that does not compile.** The engine ended in time, and among
the lines of its output, which is not too long, is a fault. Then the first line with a code is
reported, and the tag in it tells the kind of failure. It is a fault unless it is a failure at run
time, which by itself would be the output of a program that compiled; in that case no fault is
reported at all. -/
theorem history_reported {samples : Option (List Sample)} {o : Output} {timeout : Duration}
    (h : History (v.validate code samples) calls result)
    (hcall : (⟨.compile code', .ok (.ofOutput timeout o)⟩ : Call) ∈ calls)
    (htime : o.timedOut = false) (hlength : o.combined.length ≤ maxErrorText)
    (hfault : ∃ line ∈ Chars.lines o.combined.toList, IsFault line) :
    ∃ line, (Chars.lines o.combined.toList).find? isCoded = some line ∧
      result = .ok (.refused (Diagnosis.compileStart ++ " " ++ .ofList (Chars.trim line))
        (Diagnosis.tagged (Chars.trim line) .malformed)) ∧
      (∀ succeeded, compiled succeeded line = isRuntime line) ∧
      (isRuntime line = false ↔ ∃ line' ∈ Chars.lines o.combined.toList, IsFault line' ∧
        Chars.trim line' = Chars.trim line) := by
  obtain ⟨fault, hmem, hcoded, hnot⟩ := hfault
  obtain ⟨line, hfirst⟩ := Option.isSome_iff_exists.1 (List.find?_isSome.2 ⟨fault, hmem, hcoded⟩)
  have hline : line ∈ Chars.lines o.combined.toList := List.mem_of_find?_eq_some hfirst
  have hlinecoded : isCoded line = true := List.find?_some hfirst
  rw [ofOutput_eq htime hlength ⟨fault, hmem, hcoded, hnot⟩] at hcall
  obtain ⟨verdict, hverdict, hresult⟩ := (history_validate h).result_of_compile hcall rfl
  refine ⟨line, hfirst, ?_, compiled_line hlinecoded (Chars.not_mem_of_mem_lines hline), ?_, ?_⟩
  · rw [compileVerdict?_eq] at hverdict
    simp only [compileFinding, Compilation.failed, Option.getD_some, firstErrorLine_eq hfirst,
      String.toList_ofList, Bool.false_eq_true, if_false, Option.some.injEq] at hverdict
    rw [hresult, hverdict]
  · intro hruntime
    exact ⟨line, hline, ⟨hlinecoded, hruntime⟩, rfl⟩
  · rintro ⟨line', -, ⟨-, hruntime⟩, htrim⟩
    rw [← isRuntime_trim, ← htrim, isRuntime_trim]
    exact hruntime

/-- Output in which a failure at run time stands before an error of the compiler. -/
def mixed : Output where
  ending := some (.exited 1)
  stdout := ""
  stderr := "error[E000]: call failed\nerror[E103]: unhandled\n"
  timedOut := false

def mixedFirst : List Char := "error[E000]: call failed".toList

def mixedSecond : List Char := "error[E103]: unhandled".toList

theorem lines_mixed : Chars.lines mixed.combined.toList = [mixedFirst, mixedSecond] := by
  decide +kernel

theorem mixed_fault : ∃ line ∈ Chars.lines mixed.combined.toList, IsFault line := by
  rw [lines_mixed]
  exact ⟨mixedSecond, by simp, by decide +kernel, by decide +kernel⟩

theorem mixed_history :
    History (hasty.validate "." none) [⟨.compile ".", .ok (.ofOutput (.ofSeconds 30) mixed)⟩]
      (.ok (.fail (Diagnosis.compileStart ++ " " ++ firstErrorLine mixed.combined))) := by
  rw [ofOutput_eq rfl (by decide) mixed_fault]
  exact .ask _ _ _ (.done _)

/-- Of such output the failure at run time is reported, and the fault is not. -/
theorem history_reported_mixed :
    (∃ line ∈ Chars.lines mixed.combined.toList, IsFault line) ∧
    Verdict.fail (Diagnosis.compileStart ++ " " ++ firstErrorLine mixed.combined) =
      .refused (Diagnosis.compileStart ++ " " ++ .ofList mixedFirst) (.compiler 0) ∧
    ∀ line ∈ Chars.lines mixed.combined.toList, IsFault line → Chars.trim line ≠ mixedFirst := by
  obtain ⟨line, hfirst, hresult, -, hfault⟩ :=
    history_reported mixed_history List.mem_cons_self rfl (by decide) mixed_fault
  have hcoded : isCoded mixedFirst = true := by decide +kernel
  rw [lines_mixed, List.find?_cons_of_pos hcoded] at hfirst
  obtain rfl := Option.some.inj hfirst
  have htrim : Chars.trim mixedFirst = mixedFirst := by decide +kernel
  have hkind : Diagnosis.tagged mixedFirst .malformed = .compiler 0 := by decide +kernel
  rw [htrim, hkind] at hresult
  refine ⟨mixed_fault, Except.ok.inj hresult, fun line hline hfaulty heq => ?_⟩
  have hruntime : isRuntime mixedFirst = false :=
    hfault.2 ⟨line, hline, hfaulty, by rw [heq, htrim]⟩
  have hcounts : isRuntime mixedFirst = true := by decide +kernel
  rw [hcounts] at hruntime
  cases hruntime

end Validator
end RemapSynth
