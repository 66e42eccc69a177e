/-
When a repair loop tells a cycle: exactly when the most recent failures, as
many as the window holds, are all of one kind. Iterations without a program
do not count, nothing else does, and nothing ever empties the window.

A cycle costs no repair: neither the rules nor the model are asked about the
program, and the next question is for a simpler one.
-/
import RemapSynth.Proofs.Repair.Bookkeeping
import RemapSynth.Proofs.Repair.Tracking

namespace RemapSynth.Repair

open Chat Generation Dialogue

variable {Cost : Type} [Add Cost] {a : Assignment} {number : Nat} {notes : Notes Cost}
  {pending : Pending} {calls : List (Call Cost)} {r : Record} {step : Step Cost}
  {report : Report Cost}

/-- A failure that is neither the last of the budget nor left alone: the detector decides. -/
theorem Judged.cycle_iff {code code' : String} {v : Verdict}
    (h : Judged a number false code notes calls (some r) step)
    (hx : (code', .ok v) ∈ validations calls) (hv : v.passed = false)
    (hf : a.settings.fixOnFailure = true) :
    r.reason = some .cycleDetected ↔ (notes.detector.observe v.kind).1 = true := by
  cases h <;> simp_all [validations, Call.validation?]

theorem Turn.cycle_iff {code : String} {v : Verdict}
    (h : Turn a number false notes pending calls (some r) step)
    (hx : (code, .ok v) ∈ validations calls) (hv : v.passed = false)
    (hf : a.settings.fixOnFailure = true) :
    r.reason = some .cycleDetected ↔ (notes.detector.observe v.kind).1 = true := by
  cases h with
  | given h => exact h.cycle_iff hx hv hf
  | simplified g h => exact h.cycle_iff hx hv hf
  | missed failure hn => cases hx

theorem Judged.cycle_calls {code code' : String} {v : Verdict} {isLast : Bool}
    (h : Judged a number isLast code notes calls (some r) step)
    (hr : r.reason = some .cycleDetected) (hx : (code', .ok v) ∈ validations calls) :
    calls = [⟨.validate code' a.samples, .ok v⟩] ∧ ∃ notes', step = .next .simplify notes' := by
  cases h <;> simp_all [validations, Call.validation?]

/-- A cycle ends its iteration with the verdict. -/
theorem Turn.cycle_calls {code : String} {v : Verdict} {isLast : Bool}
    (h : Turn a number isLast notes pending calls (some r) step)
    (hr : r.reason = some .cycleDetected) (hx : (code, .ok v) ∈ validations calls) :
    (∀ c ∈ calls, c.isFix = false ∧ c.isRepair = false) ∧
      calls.getLast? = some ⟨.validate code a.samples, .ok v⟩ ∧
      ∃ notes', step = .next .simplify notes' := by
  cases h with
  | given h =>
    obtain ⟨rfl, hstep⟩ := h.cycle_calls hr hx
    exact ⟨by simp [Call.isFix, Call.isRepair], rfl, hstep⟩
  | simplified g h =>
    obtain ⟨rfl, hstep⟩ := h.cycle_calls hr hx
    exact ⟨by simp [Call.isFix, Call.isRepair, Assignment.simpler], rfl, hstep⟩
  | missed failure hn => cases hx

/-- Without a program, an iteration first asks for a simpler one. -/
theorem Turn.calls_of_simplify {isLast : Bool} {r : Option Record}
    (h : Turn a number isLast notes .simplify calls r step) :
    ∃ answer rest, calls = ⟨.produce a.simpler, answer⟩ :: rest := by
  cases h <;> exact ⟨_, _, rfl⟩

/-- All of a list are equal to its last element just when any two of them are equal. -/
theorem forall_eq_last_iff {n : Nat} (hn : 0 < n) (past : List Diagnosis) (d : Diagnosis) :
    (∀ x ∈ last n (past ++ [d]), x = d) ↔
      ∀ x ∈ last n (past ++ [d]), ∀ y ∈ last n (past ++ [d]), x = y := by
  have hd : d ∈ last n (past ++ [d]) := by
    rw [last, List.drop_append_of_le_length (by simp; omega)]
    simp
  constructor
  · intro h x hx y hy
    rw [h x hx, h y hy]
  · intro h x hx
    exact h x hx d hd

/-- The failures up to an iteration that has found a fault end with that one. -/
theorem Unfolds.failures_concat {earlier later : List (Round Cost)} {current : Round Cost}
    (h : Unfolds a calls (earlier ++ current :: later) report) {code : String} {v : Verdict}
    (hx : (code, .ok v) ∈ validations current.calls) (hv : v.passed = false) :
    failures (callsOf (earlier ++ [current])) = failures (callsOf earlier) ++ [v.kind] := by
  obtain ⟨_, _, _, _, _, -, -, -, hturn, -⟩ := h.turn
  have hone : failures current.calls = [v.kind] := by
    simp [failures, hturn.validations_eq hx, failure?_of_rejected hv]
  simp [hone]

/-- The detector that an iteration consults has seen just the failures before it. -/
theorem Advances.detector {opening : List (Call Cost)} {pending' : Pending} {n : Notes Cost}
    {rounds : List (Round Cost)} (hs : History (seed a) opening (.next pending notes))
    (h : Advances a 1 pending notes rounds pending' n) :
    n.detector = .after a.settings.cycleWindow (failures (callsOf rounds)) := by
  have hopening : failures opening = [] := by simp [failures, (seed_audited hs).2.2.2.1]
  rw [(h.tracks (seed_tracks hs)).detector, failures_append, hopening, List.nil_append]

/-- What follows an iteration that tells a cycle is the question for a simpler program. -/
theorem Unfolds.calls_after_cycle {earlier later : List (Round Cost)} {current : Round Cost}
    (h : Unfolds a calls (earlier ++ current :: later) report)
    (hbudget : earlier.length + 1 < a.budget) {code : String} {v : Verdict}
    (hr : current.record.reason = some .cycleDetected)
    (hx : (code, .ok v) ∈ validations current.calls) :
    ∃ answer rest, callsOf later = ⟨.produce a.simpler, answer⟩ :: rest := by
  obtain ⟨_, _, _, _, step, -, -, -, hturn, hlead⟩ := h.turn
  obtain ⟨-, -, notes', rfl⟩ := hturn.cycle_calls hr hx
  cases later with
  | nil =>
    rcases hlead with hstop | ⟨hlast, -⟩
    · cases hstop
    · rw [beq_iff_eq] at hlast
      omega
  | cons following later =>
    obtain ⟨n, hpending⟩ := hlead
    rw [Step.next.injEq] at hpending
    have hsplit : earlier ++ current :: following :: later =
        (earlier ++ [current]) ++ following :: later := by simp
    rw [hsplit] at h
    obtain ⟨_, _, _, _, _, -, -, -, hturn, -⟩ := h.turn
    rw [← hpending.1] at hturn
    obtain ⟨answer, rest, hcalls⟩ := hturn.calls_of_simplify
    exact ⟨answer, rest ++ callsOf later, by rw [callsOf_cons, hcalls]; rfl⟩

/-- **Cycle detection is exact.** A failure that neither spends the budget nor ends the loop is
told to be a cycle just when as many failures as the window holds have been seen by then and the
most recent of them are all of one kind. Then nobody is asked for a repair, and the next question
of the loop is for a simpler program, without a baseline. -/
theorem cycle_detected_iff (h : History (run a) calls (.ok report)) :
    ∃ rounds, Unfolds a calls rounds report ∧ report.records = rounds.map (·.record) ∧
      ∀ earlier current later, rounds = earlier ++ current :: later →
        ∀ code v, (code, .ok v) ∈ validations current.calls → v.passed = false →
        earlier.length + 1 < a.budget → a.settings.fixOnFailure = true →
          let window := max a.settings.cycleWindow 1
          let seen := failures (callsOf (earlier ++ [current]))
          (current.record.reason = some .cycleDetected ↔
            window ≤ seen.length ∧ ∀ x ∈ last window seen, ∀ y ∈ last window seen, x = y) ∧
          (current.record.reason = some .cycleDetected →
            (∀ c ∈ current.calls, c.isFix = false ∧ c.isRepair = false) ∧
            current.calls.getLast? = some ⟨.validate code a.samples, .ok v⟩ ∧
            ∃ answer rest, callsOf later =
              ⟨.produce (.generate a.samples (some .simplify) none), answer⟩ :: rest) := by
  obtain ⟨rounds, hunfolds⟩ := exists_unfolds h
  refine ⟨rounds, hunfolds, hunfolds.records.1, ?_⟩
  rintro earlier current later rfl code v hx hv hbudget hf window seen
  obtain ⟨_, _, _, n, step, hs, -, hadv, hturn, -⟩ := hunfolds.turn
  have hlast : (earlier.length + 1 == a.budget) = false := by
    rw [beq_eq_false_iff_ne]
    omega
  have hseen : seen = failures (callsOf earlier) ++ [v.kind] := hunfolds.failures_concat hx hv
  refine ⟨?_, fun hr => ?_⟩
  · rw [hlast] at hturn
    rw [hturn.cycle_iff hx hv hf, hadv.detector hs, CycleDetector.observe_eq_true_iff, ← hseen]
    refine and_congr_right fun _ => ?_
    rw [hseen]
    exact forall_eq_last_iff (Nat.le_max_right _ _) _ _
  · obtain ⟨hcalls, hvalidate, -⟩ := hturn.cycle_calls hr hx
    exact ⟨hcalls, hvalidate, hunfolds.calls_after_cycle hbudget hr hx⟩

theorem cycle_detected_iff_trial :
    History (run trial) trialCalls (.ok trialReport) ∧
    ∃ rounds, Unfolds trial trialCalls rounds trialReport ∧
      ∀ earlier current later, rounds = earlier ++ current :: later →
        ∀ code v, (code, .ok v) ∈ validations current.calls → v.passed = false →
        earlier.length + 1 < 5 →
          (current.record.reason = some .cycleDetected ↔
            2 ≤ (failures (callsOf (earlier ++ [current]))).length ∧
              ∀ x ∈ last 2 (failures (callsOf (earlier ++ [current]))),
                ∀ y ∈ last 2 (failures (callsOf (earlier ++ [current]))), x = y) := by
  obtain ⟨rounds, hunfolds, -, hcycle⟩ := cycle_detected_iff trial_history
  refine ⟨trial_history, rounds, hunfolds, ?_⟩
  intro earlier current later hrounds code v hx hv hbudget
  exact (hcycle earlier current later hrounds code v hx hv hbudget rfl).1

end RemapSynth.Repair
