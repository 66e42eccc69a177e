/-
Repairing a program that was just repaired. The second repair takes up where
the passes of the first one stopped, with the same rules, so it has nothing
to do exactly when every line of the program settles within the passes of
the first. Each pass makes one change to a line, so a line with more places
to change than there are passes is still changed by the second repair.
-/
import RemapSynth.Proofs.Fix.Passes
import RemapSynth.Proofs.Fix.Store

namespace RemapSynth.Fix

open Chars

variable {rules : List Rule} {weight : Char → Int} {d : Diagnosis}

theorem repairWith_eq (rules : List Rule) (d : Diagnosis) (code : String) :
    repairWith rules d code =
      let result := passes rules maxPasses (splitAt '\n' code.toList)
      if result.2 = [] ∨ joinWith ['\n'] result.1 = code.toList then none
      else some ⟨.ofList (joinWith ['\n'] result.1), d, result.2⟩ := by
  simp [repairWith, applyRules, List.isEmpty_iff]

/-- Passes that apply a rule leave a lighter program behind. -/
theorem weigh_passes_lt (hrules : ∀ rule ∈ rules, Tame weight rule) (hweight : weight '\n' = 0)
    {n : Nat} {code : List Char} (h : (passes rules n (splitAt '\n' code)).2 ≠ []) :
    weigh weight (joinWith ['\n'] (passes rules n (splitAt '\n' code)).1) < weigh weight code := by
  rcases passes_lighter hrules n (splitAt '\n' code) with hidle | ⟨-, hlt⟩
  · exact absurd (by rw [hidle]) h
  · have hcode := weigh_joinWith hweight (splitAt '\n' code)
    rw [joinWith_splitAt] at hcode
    rw [weigh_joinWith hweight, hcode]
    exact hlt

/-- A program stays as it is exactly when the first pass applies nothing. -/
theorem repairWith_eq_none_iff (hrules : ∀ rule ∈ rules, Tame weight rule)
    (hweight : weight '\n' = 0) (code : String) :
    repairWith rules d code = none ↔ (pass rules (splitAt '\n' code.toList)).2 = [] := by
  rw [repairWith_eq]
  by_cases hidle : (pass rules (splitAt '\n' code.toList)).2 = []
  · rw [passes_of_idle _ hidle]
    simp [hidle]
  · have happlied : (passes rules maxPasses (splitAt '\n' code.toList)).2 ≠ [] := by
      rw [maxPasses, passes_of_applied 3 hidle]
      simp [hidle]
    have hchanged : joinWith ['\n'] (passes rules maxPasses (splitAt '\n' code.toList)).1 ≠
        code.toList := by
      intro heq
      have hlt := weigh_passes_lt hrules hweight happlied
      rw [heq] at hlt
      exact Int.lt_irrefl _ hlt
    simp [hidle, happlied, hchanged]

/-- The lines of a repaired program are what the passes have left, or one empty line when they
have left nothing. -/
theorem lines_of_repairWith (hrules : ∀ rule ∈ rules, Tame weight rule) {code : String}
    {fix : LocalFix} (h : repairWith rules d code = some fix) :
    splitAt '\n' fix.code.toList = (passes rules maxPasses (splitAt '\n' code.toList)).1 ∨
    splitAt '\n' fix.code.toList = [[]] ∧
      (passes rules maxPasses (splitAt '\n' code.toList)).1 = [] := by
  rw [repairWith_eq] at h
  simp only at h
  split at h
  case isTrue => cases h
  case isFalse =>
    cases h
    rw [String.toList_ofList]
    by_cases hnone : (passes rules maxPasses (splitAt '\n' code.toList)).1 = []
    · rw [hnone]
      exact .inr ⟨rfl, rfl⟩
    · refine .inl (splitAt_joinWith hnone ?_)
      exact passes_oneLine hrules maxPasses fun line hline => not_mem_of_mem_splitAt hline

theorem repairWith_repairWith_iff (hrules : ∀ rule ∈ rules, Tame weight rule)
    (hweight : weight '\n' = 0) {code : String} {fix : LocalFix}
    (h : repairWith rules d code = some fix) :
    repairWith rules d fix.code = none ↔
      ∀ line ∈ splitAt '\n' code.toList, settlesIn rules maxPasses line = true := by
  rw [repairWith_eq_none_iff hrules hweight, ← pass_passes_idle_iff]
  rcases lines_of_repairWith hrules h with hlines | ⟨hlines, hnone⟩
  · rw [hlines]
  · rw [hlines, hnone]
    refine iff_of_true ?_ rfl
    rw [pass_idle_iff]
    intro line hline
    rw [List.mem_singleton.mp hline]
    exact isSettled_nil hrules

/-- **A repair leaves nothing for a second one to do exactly when every line of the program
settles within four passes.** -/
theorem repair_repair_eq_none_iff {s s' : Store} {code message : String} {fix : LocalFix}
    (hs : s.Reachable) (h : s.repair code message = (some fix, s')) :
    (s'.repair fix.code message).1 = none ↔
      ∀ line ∈ splitAt '\n' code.toList,
        settlesIn (s'.allRules (.ofMessage message)) maxPasses line = true := by
  obtain ⟨hfix, rfl⟩ := Prod.mk.inj h
  have hrules := (hs.read message).tame (d := .ofMessage message)
  rw [Store.repair, Store.read_read]
  exact repairWith_repairWith_iff hrules (weightOf_lineFeed _) hfix

/-- A program with five aborts on one line loses four of them in the first repair and the last one
in the second. -/
theorem repair_repair_five_aborts :
    let message := "error[E620]: can't abort infallible function"
    let code :=
      "if .a { abort }; if .b { abort }; if .c { abort }; if .d { abort }; if .e { abort }"
    let fixed := "if .a {}; if .b {}; if .c {}; if .d {}; if .e { abort }"
    ∃ fix s, Store.empty.repair code message = (some fix, s) ∧ fix.code = fixed ∧
      (s.repair fix.code message).1 ≠ none := by
  intro message code fixed
  have hfix : (Store.empty.repair code message).1.map (·.code) = some fixed := by decide +kernel
  have hline : ¬ ∀ line ∈ splitAt '\n' code.toList,
      settlesIn ((Store.empty.read message).allRules (.ofMessage message)) maxPasses line =
        true := by
    decide +kernel
  obtain ⟨fix, hfix, hcode⟩ := Option.map_eq_some_iff.mp hfix
  have hstep : Store.empty.repair code message = (some fix, Store.empty.read message) :=
    Prod.ext hfix rfl
  refine ⟨fix, Store.empty.read message, hstep, hcode, fun hnone => ?_⟩
  exact hline ((repair_repair_eq_none_iff .empty hstep).mp hnone)

end RemapSynth.Fix
