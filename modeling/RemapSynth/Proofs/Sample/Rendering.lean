/-
Events within a budget. What is shown of a pool are its first events, and as
many as may be (`isGreatest_shown`): any number that fits, and one whatever
its size. Everything else follows from that: a larger budget admits whatever a
smaller one did, and of the events of a pool as many are admitted as of a
longer pool that begins with them.
-/
import Mathlib.Order.Bounds.Basic
import RemapSynth.Proofs.Sample

namespace RemapSynth
namespace Sample

variable {samples : List Sample} {budget k : Nat}

/-- The bytes that the lines of some events take up. -/
def bytes (samples : List Sample) : Nat := (renderAll samples).utf8ByteSize

theorem renderAll_cons (sample : Sample) (samples : List Sample) :
    renderAll (sample :: samples) = sample.line ++ "\n" ++ renderAll samples := by
  rw [← String.toList_inj, String.toList_append, toList_renderAll, toList_renderAll]
  simp

theorem bytes_cons (sample : Sample) (samples : List Sample) :
    bytes (sample :: samples) = sample.line.utf8ByteSize + 1 + bytes samples := by
  rw [bytes, renderAll_cons, String.utf8ByteSize_append, String.utf8ByteSize_append, bytes]
  rfl

theorem bytes_append (samples more : List Sample) :
    bytes (samples ++ more) = bytes samples + bytes more := by
  induction samples with
  | nil =>
    have hnil : bytes [] = 0 := rfl
    rw [List.nil_append, hnil, Nat.zero_add]
  | cons sample samples ih =>
    rw [List.cons_append, bytes_cons, bytes_cons, ih]
    omega

/-- The first `k` events may be written behind `used` bytes: there are none, or it is one and
nothing stands before it, or they fit. -/
def Admitted (budget used : Nat) (samples : List Sample) (k : Nat) : Prop :=
  k ≤ samples.length ∧ (k = 0 ∨ used = 0 ∧ k = 1 ∨ used + bytes (samples.take k) ≤ budget)

/-- **As many events are written as may be.** -/
theorem exists_isGreatest_renderFrom (budget used : Nat) (samples : List Sample) :
    ∃ k, renderFrom budget used samples = renderAll (samples.take k) ∧
      IsGreatest {k | Admitted budget used samples k} k := by
  induction samples generalizing used with
  | nil => exact ⟨0, rfl, ⟨Nat.le_refl 0, .inl rfl⟩, fun k hk => hk.1⟩
  | cons sample samples ih =>
    rw [renderFrom]
    split
    case isTrue hfull =>
      refine ⟨0, rfl, ⟨Nat.zero_le _, .inl rfl⟩, fun k ⟨_, hk⟩ => ?_⟩
      cases k with
      | zero => exact Nat.le_refl 0
      | succ k =>
        rw [List.take_succ_cons, bytes_cons] at hk
        omega
    case isFalse hroom =>
      obtain ⟨k, hrest, ⟨hle, hk⟩, hgreatest⟩ := ih (used + sample.line.utf8ByteSize + 1)
      refine ⟨k + 1, ?_, ⟨Nat.succ_le_succ hle, ?_⟩, fun j ⟨hj, hfits⟩ => ?_⟩
      · rw [hrest, List.take_succ_cons, renderAll_cons]
      · rw [List.take_succ_cons, bytes_cons]
        rcases hk with rfl | hk | hk
        · have hnone : bytes (samples.take 0) = 0 := rfl
          rw [hnone]
          omega
        · omega
        · omega
      · cases j with
        | zero => exact Nat.zero_le _
        | succ j =>
          rw [List.take_succ_cons, bytes_cons] at hfits
          exact Nat.succ_le_succ (hgreatest ⟨Nat.le_of_succ_le_succ hj, by omega⟩)

/-- How many events are shown: each is a line. -/
def shown (samples : List Sample) (budget : Nat) : Nat :=
  (render samples budget).toList.count '\n'

theorem render_and_isGreatest (samples : List Sample) (budget : Nat) :
    render samples budget = renderAll (samples.take (shown samples budget)) ∧
      IsGreatest {k | Admitted budget 0 samples k} (shown samples budget) := by
  obtain ⟨k, hrender, hgreatest⟩ := exists_isGreatest_renderFrom budget 0 samples
  have hshown : shown samples budget = k := by
    rw [shown, render, hrender, count_renderAll, List.length_take, Nat.min_eq_left hgreatest.1.1]
  rw [hshown]
  exact ⟨hrender, hgreatest⟩

theorem render_eq (samples : List Sample) (budget : Nat) :
    render samples budget = renderAll (samples.take (shown samples budget)) :=
  (render_and_isGreatest samples budget).1

theorem isGreatest_shown (samples : List Sample) (budget : Nat) :
    IsGreatest {k | Admitted budget 0 samples k} (shown samples budget) :=
  (render_and_isGreatest samples budget).2

theorem utf8ByteSize_render (samples : List Sample) (budget : Nat) :
    (render samples budget).utf8ByteSize = bytes (samples.take (shown samples budget)) := by
  rw [render_eq, bytes]

/-- A larger budget admits whatever a smaller one did. -/
theorem Admitted.mono {budget' : Nat} (h : Admitted budget 0 samples k) (hle : budget ≤ budget') :
    Admitted budget' 0 samples k := by
  refine ⟨h.1, ?_⟩
  rcases h.2 with hnone | hone | hfits
  · exact .inl hnone
  · exact .inr (.inl hone)
  · exact .inr (.inr (Nat.le_trans hfits hle))

/-- Of the events of a pool as many are admitted as of a longer pool that begins with them. -/
theorem admitted_append_iff {more : List Sample} (hk : k ≤ samples.length) :
    Admitted budget 0 (samples ++ more) k ↔ Admitted budget 0 samples k := by
  have hle : k ≤ (samples ++ more).length := by
    rw [List.length_append]
    omega
  rw [Admitted, Admitted, List.take_append_of_le_length hk, and_iff_right hk, and_iff_right hle]

/-- Fewer events take up fewer bytes. -/
theorem Admitted.of_le {j : Nat} (h : Admitted budget 0 samples k) (hj : j ≤ k) :
    Admitted budget 0 samples j := by
  refine ⟨Nat.le_trans hj h.1, ?_⟩
  obtain ⟨more, hmore⟩ := List.take_prefix_take_left (l := samples) hj
  have hbytes : bytes (samples.take k) = bytes (samples.take j) + bytes more := by
    rw [← hmore, bytes_append]
  rcases h.2 with hnone | hone | hfits
  · omega
  · omega
  · omega

theorem shown_append (samples more : List Sample) (budget : Nat) :
    min (shown (samples ++ more) budget) samples.length = shown samples budget := by
  obtain ⟨hadmitted, hgreatest⟩ := isGreatest_shown samples budget
  obtain ⟨hadmitted', hgreatest'⟩ := isGreatest_shown (samples ++ more) budget
  apply Nat.le_antisymm
  · apply hgreatest
    have hfewer := hadmitted'.of_le (Nat.min_le_left _ samples.length)
    exact (admitted_append_iff (Nat.min_le_right _ _)).1 hfewer
  · refine Nat.le_min.2 ⟨hgreatest' ?_, hadmitted.1⟩
    exact (admitted_append_iff hadmitted.1).2 hadmitted

/-- **What is shown of a pool is its longest front that the budget admits.** It is the lines of the
first events, and of one event at least unless there are none. They fit into the budget unless it is
one line, and with the next line they would not. So a larger budget shows no event less, and with
more events behind it the same events of a pool are shown, and others only when it is shown as a
whole. -/
theorem render_longest (samples : List Sample) (budget : Nat) :
    render samples budget = renderAll (samples.take (shown samples budget)) ∧
    shown samples budget ≤ samples.length ∧
    (shown samples budget = 0 ↔ samples = []) ∧
    (shown samples budget ≠ 1 → (render samples budget).utf8ByteSize ≤ budget) ∧
    (∀ next, samples[shown samples budget]? = some next →
      budget < (render samples budget).utf8ByteSize + (next.line ++ "\n").utf8ByteSize) ∧
    (∀ budget', budget ≤ budget' → shown samples budget ≤ shown samples budget') ∧
    ∀ more, min (shown (samples ++ more) budget) samples.length = shown samples budget := by
  obtain ⟨hadmitted, hgreatest⟩ := isGreatest_shown samples budget
  have hpositive : samples ≠ [] → 1 ≤ shown samples budget := by
    intro hne
    exact hgreatest ⟨List.length_pos_iff.2 hne, .inr (.inl ⟨rfl, rfl⟩)⟩
  refine ⟨render_eq samples budget, hadmitted.1, ⟨fun hnone => ?_, fun hnil => ?_⟩, fun hone => ?_,
    fun next hnext => ?_, fun budget' hle => ?_, fun more => shown_append samples more budget⟩
  · by_contra hne
    have := hpositive hne
    omega
  · rw [hnil] at hadmitted ⊢
    exact Nat.le_zero.1 hadmitted.1
  · rw [utf8ByteSize_render]
    rcases hadmitted.2 with hnone | ⟨-, hone'⟩ | hfits
    · rw [hnone]
      exact Nat.zero_le budget
    · exact absurd hone' hone
    · omega
  · obtain ⟨hlt, hget⟩ := List.getElem?_eq_some_iff.1 hnext
    have hmore : samples ≠ [] := List.ne_nil_of_length_pos (Nat.zero_lt_of_lt hlt)
    have hbytes : bytes (samples.take (shown samples budget + 1)) =
        (render samples budget).utf8ByteSize + (next.line ++ "\n").utf8ByteSize := by
      rw [List.take_succ_eq_append_getElem hlt, hget, bytes_append, utf8ByteSize_render, bytes_cons,
        String.utf8ByteSize_append]
      rfl
    by_contra hfits
    rw [Nat.not_lt, ← hbytes] at hfits
    -- One more would be admitted, although no more can be.
    have hgreater : shown samples budget + 1 ≤ shown samples budget :=
      hgreatest ⟨hlt, .inr (.inr (by omega))⟩
    exact Nat.not_succ_le_self _ hgreater
  · exact (isGreatest_shown samples budget').2 (hadmitted.mono hle)

/-- Of three events two are shown, which take up the budget to the last byte. -/
theorem render_longest_exactly :
    let samples := [ofMessage "ä", ofMessage "", ofMessage "c"]
    shown samples 32 ≠ 1 ∧ (render samples 32).utf8ByteSize ≤ 32 ∧
      samples[shown samples 32]? = some (ofMessage "c") ∧
      32 < (render samples 32).utf8ByteSize + ((ofMessage "c").line ++ "\n").utf8ByteSize ∧
      32 ≤ 33 ∧ shown samples 32 ≤ shown samples 33 := by
  intro samples
  have hshown : shown samples 32 = 2 := by decide +kernel
  obtain ⟨-, -, -, hsize, hnext, hmore, -⟩ := render_longest samples 32
  have hget : samples[shown samples 32]? = some (ofMessage "c") := by rw [hshown]; rfl
  have hne : shown samples 32 ≠ 1 := by omega
  exact ⟨hne, hsize hne, hget, hnext _ hget, by decide, hmore 33 (by decide)⟩

end Sample
end RemapSynth
