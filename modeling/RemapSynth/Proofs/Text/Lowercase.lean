/-
Lower case, word by word. What a character becomes depends on its
neighbours only for a capital sigma, and no further than to the next blank:
so a text that holds none becomes the same before any other
(`toLower_append_blank`).
-/
import RemapSynth.Proofs.Text.Lines
import RemapSynth.Text.Lowercase

namespace RemapSynth

namespace Text

theorem meetsCased_append_blank (before rest : List Char) :
    meetsCased (before ++ ' ' :: rest) = meetsCased before := by
  induction before with
  | nil => rfl
  | cons c before ih =>
    rw [meetsCased, meetsCased] at ih ⊢
    rw [List.cons_append, List.dropWhile_cons, List.dropWhile_cons]
    by_cases hc : isCaseIgnorable c = true
    · rw [if_pos hc, if_pos hc, ih]
    · rw [if_neg hc, if_neg hc]

/-- ASCII other than letters. -/
def isPlain (c : Char) : Bool := c.toNat < 128 && !isAsciiLetter c

theorem lowerChar_of_isPlain {c : Char} (h : isPlain c = true) : lowerChar c = [c] := by
  rw [isPlain, Bool.and_eq_true, decide_eq_true_eq, Bool.not_eq_true', isAsciiLetter,
    Bool.or_eq_false_iff] at h
  obtain ⟨hascii, hupper, -⟩ := h
  rw [lowerChar, if_pos hascii, hupper]
  rfl

theorem isPlain_of_isDigit {c : Char} (h : c.isDigit = true) : isPlain c = true := by
  rw [Char.isDigit, Bool.and_eq_true, decide_eq_true_eq, decide_eq_true_eq] at h
  have hlow : 48 ≤ c.toNat := UInt32.le_iff_toNat_le.1 h.1
  have hhigh : c.toNat ≤ 57 := UInt32.le_iff_toNat_le.1 h.2
  simp only [isPlain, isAsciiLetter, Bool.and_eq_true, Bool.not_eq_true', Bool.or_eq_false_iff,
    Bool.and_eq_false_iff, decide_eq_true_eq, decide_eq_false_iff_not]
  omega

/-- A numeral is plain. -/
theorem isPlain_of_mem_repr {n : Nat} {c : Char} (h : c ∈ (Nat.repr n).toList) :
    isPlain c = true :=
  isPlain_of_isDigit (Chars.isDigit_of_mem_repr h)

end Text

namespace Chars

open Text

/-- What lies before a blank does not matter. -/
theorem lowerAfter_append_blank (before rest s : List Char) :
    lowerAfter (before ++ ' ' :: rest) s = lowerAfter before s := by
  induction s generalizing before with
  | nil => rfl
  | cons c s ih =>
    have hmore := ih (c :: before)
    rw [List.cons_append] at hmore
    rw [lowerAfter, lowerAfter, meetsCased_append_blank, hmore]

/-- A front without a capital sigma becomes the same whatever surrounds it. -/
theorem lowerAfter_append {front : List Char} (h : 'Σ' ∉ front) (before s : List Char) :
    lowerAfter before (front ++ s) =
      front.flatMap lowerChar ++ lowerAfter (front.reverse ++ before) s := by
  induction front generalizing before with
  | nil => rfl
  | cons c front ih =>
    rw [List.mem_cons, not_or] at h
    rw [List.cons_append, lowerAfter, if_neg (Ne.symm h.1), ih h.2, List.flatMap_cons,
      List.append_assoc, List.reverse_cons, List.append_assoc, List.singleton_append]

theorem toLower_of_not_mem {s : List Char} (h : 'Σ' ∉ s) : toLower s = s.flatMap lowerChar := by
  have hall := lowerAfter_append h [] []
  rwa [List.append_nil, lowerAfter, List.append_nil] at hall

/-- **A text after a blank is put in lower case on its own.** -/
theorem toLower_append_blank {front : List Char} (h : 'Σ' ∉ front) (rest : List Char) :
    toLower (front ++ ' ' :: rest) = toLower front ++ ' ' :: toLower rest := by
  have hblank : lowerChar ' ' = [' '] := rfl
  rw [toLower_of_not_mem h, toLower, lowerAfter_append h, List.append_nil, lowerAfter,
    if_neg (by decide), hblank, ← List.nil_append (' ' :: front.reverse), lowerAfter_append_blank]
  rfl

theorem not_mem_of_isPlain {s : List Char} (h : ∀ c ∈ s, isPlain c = true) : 'Σ' ∉ s := by
  intro hm
  cases h 'Σ' hm

/-- A text is in lower case when each of its characters is. -/
theorem toLower_eq_self {s : List Char} (h : ∀ c ∈ s, lowerChar c = [c]) : toLower s = s := by
  have hsigma : 'Σ' ∉ s := by
    intro hm
    have hlower := h 'Σ' hm
    revert hlower
    decide +kernel
  rw [toLower_of_not_mem hsigma]
  clear hsigma
  induction s with
  | nil => rfl
  | cons c s ih =>
    obtain ⟨hc, hs⟩ := List.forall_mem_cons.1 h
    rw [List.flatMap_cons, hc, ih hs, List.singleton_append]

/-- What is plain is in lower case. -/
theorem toLower_of_isPlain {s : List Char} (h : ∀ c ∈ s, isPlain c = true) : toLower s = s :=
  toLower_eq_self fun c hc => lowerChar_of_isPlain (h c hc)

/-- So are blanks. -/
theorem toLower_of_isBlank {s : List Char} (h : ∀ c ∈ s, Text.isBlank c = true) :
    toLower s = s := by
  have hall : ∀ n ∈ blankCodes, lowerChar (Char.ofNat n) = [Char.ofNat n] := by decide +kernel
  refine toLower_eq_self fun c hc => ?_
  have hlower := hall _ (toNat_mem_blankCodes (h c hc))
  rwa [Char.ofNat_toNat] at hlower

end Chars
end RemapSynth
