/-
What a log says went wrong. It says nothing just when it is blank, for blanks
spell no error in lower case either, and it never says too much
(`engineErrorText_eq_none_iff`, `length_engineErrorText_le`). From the first
line with a code on its lines are quoted as they are, so what is cut off is
behind that line, or behind as much of it as there is room for
(`engineErrorText_coded`).
-/
import RemapSynth.Engine.Run
import RemapSynth.Proofs.Text.Lowercase

namespace RemapSynth.Engine

open Chars

variable {log line text : List Char}

theorem blank_of_mem_lines (h : isBlank log = true) (hline : line ∈ lines log) :
    ∀ c ∈ line, Text.isBlank c = true := by
  intro c hc
  exact List.all_eq_true.1 h c (mem_of_mem_lines hline hc)

/-- Blanks do not spell a word with an `e`. -/
theorem contains_of_blank {needle : List Char} (hneedle : 'e' ∈ needle)
    (h : ∀ c ∈ line, Text.isBlank c = true) : contains line needle = false := by
  rw [Bool.eq_false_iff, ne_eq, contains_iff_infix]
  intro hin
  have he : Text.isBlank 'e' = true := h 'e' (hin.subset hneedle)
  revert he
  decide

theorem errorStart?_of_blank (h : isBlank log = true) : errorStart? (lines log) = none := by
  have hcoded : (lines log).findIdx? isCoded = none := by
    refine List.findIdx?_eq_none_iff.2 fun line hline => ?_
    exact contains_of_blank (by decide) (blank_of_mem_lines h hline)
  have hspeaks : ((lines log).findIdx? fun line =>
      contains (toLower line) "error".toList) = none := by
    refine List.findIdx?_eq_none_iff.2 fun line hline => ?_
    have hblank := blank_of_mem_lines h hline
    rw [toLower_of_isBlank hblank]
    exact contains_of_blank (by decide) hblank
  simp only [errorStart?, hcoded, hspeaks]

/-- **A log says nothing just when it is blank.** -/
theorem engineErrorText_eq_none_iff : engineErrorText log = none ↔ isBlank log = true := by
  constructor
  · intro h
    simp only [engineErrorText] at h
    split at h
    · cases h
    · split at h
      case isTrue hblank => exact hblank
      case isFalse => cases h
  · intro h
    simp only [engineErrorText, errorStart?_of_blank h, h, if_true]

theorem length_engineErrorText_le (h : engineErrorText log = some text) :
    text.length ≤ maxErrorText := by
  simp only [engineErrorText] at h
  split at h
  · cases h
    exact length_truncate_le _ _
  · split at h
    · cases h
    · have hroom : maxLogTail ≤ maxErrorText := by decide
      rw [← Option.some.inj h]
      exact Nat.le_trans (length_tail_le _ _) hroom

/-! ## The first line with a code -/

theorem errorStart?_append {before after : List (List Char)} (hcoded : isCoded line = true)
    (hbefore : ∀ other ∈ before, isCoded other = false) :
    errorStart? (before ++ line :: after) = some before.length := by
  have hfirst : (before ++ line :: after).findIdx? isCoded = some before.length := by
    rw [List.findIdx?_append, List.findIdx?_eq_none_iff.2 hbefore, List.findIdx?_cons, hcoded]
    simp
  rw [errorStart?, hfirst]

/-- How much is kept of an error text that is too long, in characters; the other places are for
dots. -/
def keptErrorText : Nat := maxErrorText - 3

/-- A text that is too long is cut behind its first line, or in that line when that is too long
itself. -/
theorem prefix_truncate {s : List Char} (h : line <+: s) :
    line <+: truncate s maxErrorText ∨ keptErrorText < line.length ∧
      truncate s maxErrorText = line.take keptErrorText ++ "...".toList := by
  obtain ⟨rest, rfl⟩ := h
  by_cases hshort : (line ++ rest).length ≤ maxErrorText
  · rw [truncate, if_pos hshort]
    exact .inl (List.prefix_append line rest)
  · have hcut : truncate (line ++ rest) maxErrorText =
        (line ++ rest).take keptErrorText ++ "...".toList := by
      rw [truncate, if_neg hshort, if_neg (by decide)]
      rfl
    rw [hcut, List.take_append]
    by_cases hline : line.length ≤ keptErrorText
    · rw [List.take_of_length_le hline, List.append_assoc]
      exact .inl (List.prefix_append line _)
    · rw [Nat.not_le] at hline
      rw [Nat.sub_eq_zero_of_le (Nat.le_of_lt hline), List.take_zero, List.append_nil]
      exact .inr ⟨hline, rfl⟩

/-- **A log with a code says what the first line with a code says**, and then more. -/
theorem engineErrorText_coded (h : (lines log).find? isCoded = some line) :
    ∃ text, engineErrorText log = some text ∧
      (line <+: text ∨ keptErrorText < line.length ∧
        text = line.take keptErrorText ++ "...".toList) := by
  obtain ⟨hcoded, before, after, hlines, hbefore⟩ := List.find?_eq_some_iff_append.1 h
  have hstart : errorStart? (lines log) = some before.length := by
    rw [hlines]
    exact errorStart?_append hcoded fun other hother => by simpa using hbefore other hother
  have hquoted : ((lines log).drop before.length).take maxErrorLines =
      line :: after.take (maxErrorLines - 1) := by
    rw [hlines, List.drop_left]
    rfl
  refine ⟨_, by simp only [engineErrorText, hstart, hquoted]; rfl, ?_⟩
  exact prefix_truncate (prefix_joinWith _ _ _)

end RemapSynth.Engine
