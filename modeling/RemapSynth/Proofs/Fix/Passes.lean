/-
What passes of tame rules make of a program. Every pass that applies a rule
leaves the program lighter, so a program that was changed cannot come out as
it was. Lines do not know of each other: the program settles when every one
of its lines does (`settlesIn`), and stopping after a number of passes shows
only in lines that need more of them.
-/
import RemapSynth.Fix.Local
import RemapSynth.Proofs.Fix.Tame

namespace RemapSynth.Fix

open Chars

/-- Whether a pass leaves a line as it is. -/
def isSettled (rules : List Rule) (line : List Char) : Bool := (passLine rules line).2.isEmpty

/-- Whether what is left of a line after `n` passes is settled. -/
def settlesIn (rules : List Rule) : Nat → List Char → Bool
  | 0, line => isSettled rules line
  | n + 1, line => (passLine rules line).1.all (settlesIn rules n)

variable {rules : List Rule} {weight : Char → Int} {line : List Char} {lines : List (List Char)}

/-! ## One line -/

theorem apply_of_firstEdit? {name : String} {edit : Edit}
    (h : firstEdit? rules line = some (name, edit)) :
    ∃ rule ∈ rules, rule.name = name ∧ rule.apply line = edit := by
  induction rules with
  | nil => cases h
  | cons rule rules ih =>
    rw [firstEdit?] at h
    split at h
    case h_1 =>
      obtain ⟨found, hfound, hrule⟩ := ih h
      exact ⟨found, List.mem_cons_of_mem rule hfound, hrule⟩
    case h_2 =>
      cases h
      exact ⟨rule, List.mem_cons_self, rfl, rfl⟩

/-- A pass leaves a line alone, or one rule rewrites it or drops it. -/
theorem passLine_cases (rules : List Rule) (line : List Char) :
    passLine rules line = ([line], []) ∨
    (∃ rule ∈ rules, ∃ new, rule.apply line = .replace new ∧
      passLine rules line = ([new], [rule.name])) ∨
    ∃ rule ∈ rules, rule.apply line = .drop ∧ passLine rules line = ([], [rule.name]) := by
  rw [passLine]
  split
  · exact .inl rfl
  · split
    case h_1 name new hfirst =>
      obtain ⟨rule, hrule, rfl, happly⟩ := apply_of_firstEdit? hfirst
      exact .inr (.inl ⟨rule, hrule, new, happly, rfl⟩)
    case h_2 name hfirst =>
      obtain ⟨rule, hrule, rfl, happly⟩ := apply_of_firstEdit? hfirst
      exact .inr (.inr ⟨rule, hrule, happly, rfl⟩)
    case h_3 => exact .inl rfl
    case h_4 => exact .inl rfl

theorem passLine_of_isSettled (h : isSettled rules line = true) :
    passLine rules line = ([line], []) := by
  rw [isSettled, List.isEmpty_iff] at h
  obtain hnone | ⟨rule, -, new, -, hnew⟩ | ⟨rule, -, -, hdrop⟩ := passLine_cases rules line
  · exact hnone
  · rw [hnew] at h
    cases h
  · rw [hdrop] at h
    cases h

theorem settlesIn_of_isSettled (h : isSettled rules line = true) (n : Nat) :
    settlesIn rules n line = true := by
  induction n with
  | zero => exact h
  | succ n ih => simp [settlesIn, passLine_of_isSettled h, ih]

theorem passLine_lighter (hrules : ∀ rule ∈ rules, Tame weight rule) (line : List Char) :
    passLine rules line = ([line], []) ∨
    (passLine rules line).2 ≠ [] ∧
      weighAll weight (passLine rules line).1 < weigh weight line := by
  obtain hnone | ⟨rule, hrule, new, happly, hnew⟩ | ⟨rule, hrule, happly, hdrop⟩ :=
    passLine_cases rules line
  · exact .inl hnone
  · have hlighter := ((hrules rule hrule).replace happly).lighter
    refine .inr ⟨by simp [hnew], ?_⟩
    simpa [hnew] using hlighter
  · have hweight := (hrules rule hrule).drop happly
    refine .inr ⟨by simp [hdrop], ?_⟩
    simpa [hdrop] using hweight

theorem passLine_oneLine (hrules : ∀ rule ∈ rules, Tame weight rule) (hline : '\n' ∉ line) :
    ∀ new ∈ (passLine rules line).1, '\n' ∉ new := by
  obtain hnone | ⟨rule, hrule, new, happly, hnew⟩ | ⟨rule, hrule, happly, hdrop⟩ :=
    passLine_cases rules line
  · simpa [hnone] using hline
  · simpa [hnew] using ((hrules rule hrule).replace happly).oneLine hline
  · simp [hdrop]

theorem isSettled_nil (hrules : ∀ rule ∈ rules, Tame weight rule) :
    isSettled rules [] = true := by
  obtain hnone | ⟨rule, hrule, new, happly, -⟩ | ⟨rule, hrule, happly, -⟩ :=
    passLine_cases rules []
  · simp [isSettled, hnone]
  · rw [(hrules rule hrule).apply_nil] at happly
    cases happly
  · rw [(hrules rule hrule).apply_nil] at happly
    cases happly

/-! ## One pass over all lines -/

theorem pass_nil : pass rules [] = ([], []) := rfl

theorem pass_cons (line : List Char) (lines : List (List Char)) :
    pass rules (line :: lines) =
      ((passLine rules line).1 ++ (pass rules lines).1,
        (passLine rules line).2 ++ (pass rules lines).2) := rfl

theorem mem_pass {new : List Char} :
    new ∈ (pass rules lines).1 ↔ ∃ line ∈ lines, new ∈ (passLine rules line).1 := by
  simp only [pass, List.flatMap_map, List.mem_flatMap]

/-- A pass applies nothing exactly when every line is settled. -/
theorem pass_idle_iff :
    (pass rules lines).2 = [] ↔ ∀ line ∈ lines, isSettled rules line = true := by
  simp [pass, isSettled, List.isEmpty_iff]

theorem pass_of_idle (h : (pass rules lines).2 = []) : pass rules lines = (lines, []) := by
  induction lines with
  | nil => rfl
  | cons line lines ih =>
    rw [pass_cons, List.append_eq_nil_iff] at h
    have hline : passLine rules line = ([line], []) :=
      passLine_of_isSettled (List.isEmpty_iff.mpr h.1)
    rw [pass_cons, hline, ih h.2]
    rfl

/-- A pass that applies a rule makes the program lighter. -/
theorem pass_lighter (hrules : ∀ rule ∈ rules, Tame weight rule) (lines : List (List Char)) :
    pass rules lines = (lines, []) ∨
    (pass rules lines).2 ≠ [] ∧ weighAll weight (pass rules lines).1 < weighAll weight lines := by
  induction lines with
  | nil => exact .inl pass_nil
  | cons line lines ih =>
    rw [pass_cons]
    rcases passLine_lighter hrules line with hline | ⟨happlied, hline⟩ <;>
      rcases ih with hlines | ⟨hmore, hlines⟩
    · left
      rw [hline, hlines]
      rfl
    · right
      simp only [hline, weighAll_append, weighAll_cons, weighAll_nil]
      exact ⟨by simp [hmore], by omega⟩
    · right
      simp only [hlines, weighAll_append, weighAll_cons]
      exact ⟨by simp [happlied], by omega⟩
    · right
      simp only [weighAll_append, weighAll_cons]
      exact ⟨by simp [happlied], by omega⟩

/-! ## All passes -/

theorem passes_of_idle (n : Nat) (h : (pass rules lines).2 = []) :
    passes rules n lines = (lines, []) := by
  cases n with
  | zero => rfl
  | succ n => rw [passes, pass_of_idle h]

theorem passes_of_applied (n : Nat) (h : (pass rules lines).2 ≠ []) :
    passes rules (n + 1) lines =
      ((passes rules n (pass rules lines).1).1,
        (pass rules lines).2 ++ (passes rules n (pass rules lines).1).2) := by
  rw [passes]
  split
  case h_1 hpass => exact absurd (by rw [hpass]) h
  case h_2 hpass => rw [hpass]

/-- Passes that apply a rule make the program lighter. -/
theorem passes_lighter (hrules : ∀ rule ∈ rules, Tame weight rule) (n : Nat)
    (lines : List (List Char)) :
    passes rules n lines = (lines, []) ∨
    (passes rules n lines).2 ≠ [] ∧
      weighAll weight (passes rules n lines).1 < weighAll weight lines := by
  induction n generalizing lines with
  | zero => exact .inl rfl
  | succ n ih =>
    rcases pass_lighter hrules lines with hidle | ⟨happlied, hpass⟩
    · exact .inl (passes_of_idle _ (by rw [hidle]))
    · right
      rw [passes_of_applied n happlied]
      refine ⟨by simp [happlied], ?_⟩
      rcases ih (pass rules lines).1 with hrest | ⟨-, hrest⟩
      · rw [hrest]
        exact hpass
      · exact Int.lt_trans hrest hpass

theorem passes_oneLine (hrules : ∀ rule ∈ rules, Tame weight rule) (n : Nat)
    (hlines : ∀ line ∈ lines, '\n' ∉ line) : ∀ line ∈ (passes rules n lines).1, '\n' ∉ line := by
  induction n generalizing lines with
  | zero => exact hlines
  | succ n ih =>
    by_cases hidle : (pass rules lines).2 = []
    · rw [passes_of_idle _ hidle]
      exact hlines
    · rw [passes_of_applied n hidle]
      refine ih fun new hnew => ?_
      obtain ⟨line, hline, hnew⟩ := mem_pass.mp hnew
      exact passLine_oneLine hrules (hlines line hline) new hnew

/-- **After `n` passes one more changes nothing exactly when every line settles in `n` passes.** -/
theorem pass_passes_idle_iff (n : Nat) :
    (pass rules (passes rules n lines).1).2 = [] ↔
      ∀ line ∈ lines, settlesIn rules n line = true := by
  induction n generalizing lines with
  | zero => exact pass_idle_iff
  | succ n ih =>
    by_cases hidle : (pass rules lines).2 = []
    -- the passes end early, and a settled line stays settled however many there would be
    · rw [passes_of_idle _ hidle]
      refine iff_of_true hidle fun line hline => ?_
      exact settlesIn_of_isSettled (pass_idle_iff.mp hidle line hline) (n + 1)
    · rw [passes_of_applied n hidle, ih]
      simp only [settlesIn, List.all_eq_true]
      constructor
      · intro h line hline new hnew
        exact h new (mem_pass.mpr ⟨line, hline, hnew⟩)
      · intro h new hnew
        obtain ⟨line, hline, hnew⟩ := mem_pass.mp hnew
        exact h line hline new hnew

end RemapSynth.Fix
