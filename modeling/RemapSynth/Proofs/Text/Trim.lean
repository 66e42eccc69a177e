/-
Blanks and trimming. There are 25 blanks, so what holds of each can be looked
up (`toNat_mem_blankCodes`). A trimmed text neither begins nor ends with a
blank, and such a text is not changed by trimming; in the middle of another it
is what trimming goes up to from both ends (`trim_append_append`).
-/
import Mathlib.Data.List.TakeWhile
import RemapSynth.Text.Blank

namespace RemapSynth

namespace Text

/-- The code points of blanks. -/
def blankCodes : List Nat :=
  List.range' 0x9 5 ++ [0x20, 0x85, 0xa0, 0x1680] ++ List.range' 0x2000 11 ++
    [0x2028, 0x2029, 0x202f, 0x205f, 0x3000]

theorem toNat_mem_blankCodes {c : Char} (h : isBlank c = true) : c.toNat ∈ blankCodes := by
  simp only [isBlank, Bool.or_eq_true, Bool.and_eq_true, decide_eq_true_eq, beq_iff_eq] at h
  simp only [blankCodes, List.mem_append, List.mem_range'_1, List.mem_cons, List.not_mem_nil]
  omega

end Text

namespace Chars

variable {c : Char} {s : List Char}

theorem dropWhile_append_cons {p : Char → Bool} (hc : p c = false) (before after : List Char) :
    (before ++ c :: after).dropWhile p = before.dropWhile p ++ c :: after := by
  induction before with
  | nil => simp [hc]
  | cons d before ih =>
    cases hd : p d <;> simp [hd, ih]

theorem dropWhile_of_head {p : Char → Bool} (h : ∀ c ∈ s.head?, p c = false) :
    s.dropWhile p = s := by
  cases s with
  | nil => rfl
  | cons c s => rw [List.dropWhile_cons_of_neg (by simp [h c rfl])]

theorem of_mem_head?_dropWhile {p : Char → Bool} (hc : c ∈ (s.dropWhile p).head?) :
    p c = false := by
  have hnot := List.head?_dropWhile_not p s
  rw [Option.mem_def.1 hc] at hnot
  simpa using hnot

theorem trim_prefix_trimStart (s : List Char) : trim s <+: trimStart s := by
  rw [trim, trimEnd, ← List.reverse_suffix, List.reverse_reverse]
  exact List.dropWhile_suffix _

theorem not_isBlank_head_trim (hc : c ∈ (trim s).head?) : Text.isBlank c = false := by
  obtain ⟨rest, hrest⟩ := trim_prefix_trimStart s
  have hhead : (trimStart s).head? = some c := by
    rw [← hrest, List.head?_append, Option.mem_def.1 hc, Option.some_or]
  exact of_mem_head?_dropWhile hhead

theorem not_isBlank_last_trim (hc : c ∈ (trim s).getLast?) : Text.isBlank c = false := by
  rw [trim, trimEnd, List.getLast?_reverse] at hc
  exact of_mem_head?_dropWhile hc

/-- Trimming takes off what stands around a text that neither begins nor ends with a blank, as far
as it is blank. -/
theorem trim_append_append {core : List Char} (hne : core ≠ [])
    (hhead : ∀ c ∈ core.head?, Text.isBlank c = false)
    (hlast : ∀ c ∈ core.getLast?, Text.isBlank c = false) (before after : List Char) :
    trim (before ++ core ++ after) = trimStart before ++ core ++ trimEnd after := by
  obtain ⟨c, rest, hcons⟩ := List.exists_cons_of_ne_nil hne
  obtain ⟨front, d, hconcat⟩ := List.eq_nil_or_concat core |>.resolve_left hne
  have hc : Text.isBlank c = false := hhead c (by simp [hcons])
  have hd : Text.isBlank d = false := hlast d (by simp [hconcat])
  have hstart : trimStart (before ++ core ++ after) = trimStart before ++ core ++ after := by
    rw [hcons, trimStart, List.append_assoc, List.cons_append, dropWhile_append_cons hc]
    simp [trimStart]
  rw [trim, hstart, hconcat, trimEnd]
  have hreverse : (trimStart before ++ front.concat d ++ after).reverse =
      after.reverse ++ d :: (front.reverse ++ (trimStart before).reverse) := by simp
  rw [hreverse, dropWhile_append_cons hd]
  simp [trimEnd]

theorem trim_ne_nil (hc : Text.isBlank c = false) (h : c ∈ s) : trim s ≠ [] := by
  obtain ⟨before, after, rfl⟩ := List.append_of_mem h
  have htrim : trim (before ++ [c] ++ after) = trimStart before ++ [c] ++ trimEnd after :=
    trim_append_append (by simp) (by simpa using hc) (by simpa using hc) before after
  rw [List.append_assoc, List.singleton_append] at htrim
  simp [htrim]

theorem trim_eq_self (hhead : ∀ c ∈ s.head?, Text.isBlank c = false)
    (hlast : ∀ c ∈ s.getLast?, Text.isBlank c = false) : trim s = s := by
  by_cases hne : s = []
  · rw [hne]
    rfl
  · have htrim := trim_append_append hne hhead hlast [] []
    simpa [trimStart, trimEnd] using htrim

/-- Trimming begins at the end of what does not begin with a blank. -/
theorem trim_of_head (h : ∀ c ∈ s.head?, Text.isBlank c = false) :
    trim s = trimEnd s := by
  rw [trim, trimStart, dropWhile_of_head h]

/-- Nothing is taken off behind a character but what stands behind it. -/
theorem trimEnd_cons (hc : Text.isBlank c = false) (s : List Char) :
    trimEnd (c :: s) = c :: trimEnd s := by
  rw [trimEnd, List.reverse_cons, dropWhile_append_cons hc, trimEnd]
  simp

theorem trim_trim (s : List Char) : trim (trim s) = trim s :=
  trim_eq_self (fun _ => not_isBlank_head_trim) fun _ => not_isBlank_last_trim

/-- Blanks at the start do not matter. -/
theorem trim_blank_append {gap : List Char} (h : ∀ c ∈ gap, Text.isBlank c = true)
    (s : List Char) : trim (gap ++ s) = trim s := by
  rw [trim, trimStart, List.dropWhile_append_of_pos h, ← trimStart, ← trim]

/-- Blanks at the end do not matter. -/
theorem trim_append_blank {gap : List Char} (h : ∀ c ∈ gap, Text.isBlank c = true)
    (s : List Char) : trim (s ++ gap) = trim s := by
  have hend (s : List Char) : trimEnd (s ++ gap) = trimEnd s := by
    have hgap : ∀ c ∈ gap.reverse, Text.isBlank c = true := fun c hc => h c (List.mem_reverse.1 hc)
    rw [trimEnd, List.reverse_append, List.dropWhile_append_of_pos hgap, ← trimEnd]
  rw [trim, trim, trimStart, trimStart, List.dropWhile_append, List.dropWhile_eq_nil_iff.2 h]
  split
  case isTrue hblank => rw [List.isEmpty_iff.1 hblank]
  case isFalse => exact hend _

/-- What has nothing of a class is left when that class is taken off around it. -/
theorem trimMatches_append_append {p : Char → Bool} {front text behind : List Char}
    (hfront : ∀ c ∈ front, p c = true) (htext : ∀ c ∈ text, p c = false)
    (hbehind : ∀ c ∈ behind, p c = true) : trimMatches p (front ++ text ++ behind) = text := by
  have hreverse : ∀ c ∈ text.reverse.head?, p c = false :=
    fun c hc => htext c (List.mem_reverse.1 (List.mem_of_mem_head? hc))
  have hbehind' : ∀ c ∈ behind.reverse, p c = true := fun c hc => hbehind c (List.mem_reverse.1 hc)
  rw [trimMatches, List.append_assoc, List.dropWhile_append_of_pos hfront]
  cases text with
  | nil =>
    rw [List.nil_append, List.dropWhile_eq_nil_iff.2 hbehind]
    rfl
  | cons c text =>
    have hhead : ∀ d ∈ (c :: text ++ behind).head?, p d = false := by
      intro d hd
      exact htext d (List.mem_of_mem_head? (by simpa using hd))
    rw [dropWhile_of_head hhead, List.reverse_append, List.dropWhile_append_of_pos hbehind',
      dropWhile_of_head hreverse, List.reverse_reverse]

end Chars
end RemapSynth
