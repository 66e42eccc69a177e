/-
The window of the cycle detector. After any failures it holds the most
recent of them (`after`), so it tells a cycle exactly when the window is
full and the most recent failures are all of one kind.
-/
import RemapSynth.Repair.Record

namespace RemapSynth.Repair.CycleDetector

/-- A detector with a window of `window` kinds that has seen the failures `past`. -/
def after (window : Nat) (past : List Diagnosis) : CycleDetector where
  window := max window 1
  recent := past.reverse.take (max window 1)

theorem after_nil (window : Nat) : after window [] = new window := by
  simp [after, new]

theorem push_after (window : Nat) (past : List Diagnosis) (d : Diagnosis) :
    (after window past).push d = after window (past ++ [d]) := by
  obtain ⟨n, hn⟩ : ∃ n, max window 1 = n + 1 := ⟨max window 1 - 1, by omega⟩
  simp only [after, push, hn, List.reverse_append, List.reverse_singleton, List.singleton_append,
    List.take_succ_cons, List.take_take, Nat.min_eq_left (Nat.le_succ n)]

theorem observe_after (window : Nat) (past : List Diagnosis) (d : Diagnosis) :
    ((after window past).observe d).2 = after window (past ++ [d]) := push_after window past d

/-- The window holds the most recent failures, newest first. -/
theorem recent_after (window : Nat) (past : List Diagnosis) :
    (after window past).recent = (last (max window 1) past).reverse := by
  simp only [after, last, List.take_reverse]

/-- **The detector tells a cycle exactly when the most recent failures, as many as its window
holds, are all of the kind of the last.** -/
theorem observe_eq_true_iff (window : Nat) (past : List Diagnosis) (d : Diagnosis) :
    ((after window past).observe d).1 = true ↔
      max window 1 ≤ (past ++ [d]).length ∧ ∀ x ∈ last (max window 1) (past ++ [d]), x = d := by
  simp only [observe, push_after, isCycle, recent_after, Bool.and_eq_true, beq_iff_eq,
    List.length_reverse, List.all_reverse, List.all_eq_true]
  have hwindow : (after window (past ++ [d])).window = max window 1 := rfl
  rw [hwindow]
  refine and_congr_left fun _ => ?_
  rw [last, List.length_drop]
  omega

end RemapSynth.Repair.CycleDetector
