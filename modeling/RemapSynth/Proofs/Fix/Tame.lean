/-
Why repairing comes to an end. Every kind of error has its own weighing of
characters under which a line gets lighter whenever one of the rules for
that kind rewrites it, and under which a line that is dropped weighed
something (`Tame`). The rules that take text away are tame when characters
weigh something; a rule that adds a fallback or a hash sign is tame because
these weigh less than nothing. Renaming a function makes the name longer as
often as shorter, so there the letters are weighed to suit the ten renamings.
-/
import RemapSynth.Fix.Local
import RemapSynth.Proofs.Pattern
import RemapSynth.Proofs.Text.Weight

namespace RemapSynth.Fix

open Chars Pattern

/-- The new text can take the place of the old one: it is lighter, and it adds no line feed. -/
structure Lightens (weight : Char → Int) (old new : List Char) : Prop where
  lighter : weigh weight new < weigh weight old
  oneLine : '\n' ∉ old → '\n' ∉ new

/-- Whatever the rule does to a line, less is left of it, and an empty line does not set it off. -/
structure Tame (weight : Char → Int) (rule : Rule) : Prop where
  replace {line new : List Char} : rule.apply line = .replace new → Lightens weight line new
  drop {line : List Char} : rule.apply line = .drop → 0 < weigh weight line
  idle : rule.trigger.fires [] = false

variable {weight : Char → Int} {rule : Rule} {line new : List Char}

/-- What stands around the text does not matter. -/
theorem Lightens.within {old new : List Char} (h : Lightens weight old new)
    (before after : List Char) :
    Lightens weight (before ++ old ++ after) (before ++ new ++ after) where
  lighter := by
    have := h.lighter
    simp only [weigh_append]
    omega
  oneLine := by
    simp only [List.mem_append, not_or]
    rintro ⟨⟨hbefore, hold⟩, hafter⟩
    exact ⟨⟨hbefore, h.oneLine hold⟩, hafter⟩

/-- A tame rule leaves an empty line alone. -/
theorem Tame.apply_nil (h : Tame weight rule) : rule.apply [] = .unchanged := by
  rw [Rule.apply, h.idle]
  split <;> rfl

theorem Edit.of_eq_replace {old made : List Char} (h : Edit.of old made = .replace new) :
    made = new := by
  rw [Edit.of] at h
  split at h
  · cases h
  · exact Edit.replace.inj h

theorem Edit.of_ne_drop (old made : List Char) : Edit.of old made ≠ .drop := by
  rw [Edit.of]
  split <;> simp

/-- Only a rule that is set off does anything. -/
theorem Rule.edit_of_apply {edit : Edit} (h : rule.apply line = edit) (hne : edit ≠ .unchanged) :
    rule.trigger.fires line = true ∧ rule.edit line = edit := by
  rw [Rule.apply] at h
  split at h
  · exact absurd h.symm hne
  · split at h
    case isTrue hfires => exact ⟨hfires, h⟩
    case isFalse => exact absurd h.symm hne

/-- A substitution is tame when what it puts in lightens whatever its pattern can consume. -/
theorem tame_substitution {name : String} {p : Pattern} {parts : List Part} (hp : 0 < p.least)
    (h : ∀ {s groups}, p.Consumes s [] groups → Lightens weight s (expand groups parts)) :
    Tame weight (substitution name p parts) where
  replace {line new} hedit := by
    obtain ⟨hfires, hedit⟩ := Rule.edit_of_apply hedit (by simp)
    obtain ⟨m, hm⟩ := Option.isSome_iff_exists.mp hfires
    obtain ⟨s, hline, hs⟩ := search_sound hm
    have hnew : p.replaceFirst parts line = new := Edit.of_eq_replace hedit
    rw [Pattern.replaceFirst, hm] at hnew
    rw [hline, ← hnew]
    exact (h hs).within m.before m.after
  drop hedit := absurd (Rule.edit_of_apply hedit (by simp)).2 (Edit.of_ne_drop _ _)
  idle := occursIn_nil hp

/-- The same for a replacement of one text by another. -/
theorem tame_replacement {name old made : String} {guards : List String} (hold : old ≠ "")
    (h : Lightens weight old.toList made.toList) :
    Tame weight ⟨name, .contains old, .replace old made, guards⟩ where
  replace {line new} hedit := by
    obtain ⟨hfires, hedit⟩ := Rule.edit_of_apply hedit (by simp)
    obtain ⟨before, after, hbreak⟩ := contains_iff_breakOn.mp hfires
    have hnew : Chars.replaceFirst old.toList made.toList line = new := Edit.of_eq_replace hedit
    rw [Chars.replaceFirst, hbreak] at hnew
    rw [eq_append_of_breakOn hbreak, ← hnew]
    exact h.within before after
  drop hedit := absurd (Rule.edit_of_apply hedit (by simp)).2 (Edit.of_ne_drop _ _)
  idle := by simp [Trigger.fires, contains, breakOn, hold]

/-- A comment is the line with a hash sign and a space put into it. -/
theorem commented_eq (line : List Char) :
    ∃ blank rest, line = blank ++ rest ∧ commented line = blank ++ ['#', ' '] ++ rest :=
  ⟨line.takeWhile Text.isBlank, trimStart line, List.takeWhile_append_dropWhile.symm, rfl⟩

/-- Commenting out is tame when the hash sign is light enough. -/
theorem tame_commentOut {name : String} {trigger : Trigger} {guards : List String}
    (hhash : weight '#' + weight ' ' < 0) (hidle : trigger.fires [] = false) :
    Tame weight ⟨name, trigger, .commentOut, guards⟩ where
  replace {line new} hedit := by
    obtain ⟨-, hedit⟩ := Rule.edit_of_apply hedit (by simp)
    have hnew : commented line = new := Edit.of_eq_replace hedit
    obtain ⟨blank, rest, hline, hcommented⟩ := commented_eq line
    rw [← hnew, hcommented, hline]
    refine ⟨?_, ?_⟩
    · simp only [weigh_append, weigh_cons, weigh_nil]
      omega
    · simp
  drop hedit := absurd (Rule.edit_of_apply hedit (by simp)).2 (Edit.of_ne_drop _ _)
  idle := hidle

/-- Dropping lines is tame when every line that sets the rule off weighs something. -/
theorem tame_dropLine {name : String} {trigger : Trigger} {guards : List String}
    (h : ∀ line, trigger.fires line = true → 0 < weigh weight line) :
    Tame weight ⟨name, trigger, .dropLine, guards⟩ where
  replace hedit := by
    obtain ⟨-, hedit⟩ := Rule.edit_of_apply hedit (by simp)
    cases hedit
  drop hedit := h _ (Rule.edit_of_apply hedit (by simp)).1
  idle := by
    cases hfires : trigger.fires [] with
    | false => rfl
    | true => exact absurd (h [] hfires) (by simp)

end RemapSynth.Fix
