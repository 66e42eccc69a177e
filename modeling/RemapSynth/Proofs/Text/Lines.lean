/-
Lines, cuts and numerals. A line has no line feed in it
(`not_mem_of_mem_lines`), and a text without one is a line by itself; trimming
and shortening bring no new characters into a text but dots.
-/
import RemapSynth.Proofs.Text.Pieces
import RemapSynth.Proofs.Text.Trim
import RemapSynth.Text.Cut

namespace RemapSynth.Chars

variable {c : Char} {s line : List Char}

/-! ## Lines -/

theorem mem_of_mem_dropReturn (h : c ∈ dropReturn s) : c ∈ s := by
  rw [dropReturn] at h
  split at h
  · exact List.dropLast_subset s h
  · exact h

theorem dropReturn_of_ne (h : s.getLast? ≠ some '\r') : dropReturn s = s := if_neg h

theorem exists_of_mem_linesOfPieces {pieces : List (List Char)}
    (h : line ∈ linesOfPieces pieces) : ∃ piece ∈ pieces, line ⊆ piece := by
  induction pieces using linesOfPieces.induct with
  | case1 => cases h
  | case2 last hlast =>
    rw [linesOfPieces, if_pos hlast] at h
    cases h
  | case3 last hlast =>
    rw [linesOfPieces, if_neg hlast, List.mem_singleton] at h
    exact ⟨last, List.mem_cons_self, h ▸ List.Subset.refl last⟩
  | case4 piece pieces hpieces ih =>
    rw [linesOfPieces.eq_3 _ _ hpieces] at h
    rcases List.mem_cons.1 h with rfl | h
    · exact ⟨piece, List.mem_cons_self, fun _ hc => mem_of_mem_dropReturn hc⟩
    · obtain ⟨next, hnext, hline⟩ := ih h
      exact ⟨next, List.mem_cons_of_mem piece hnext, hline⟩

/-- Pieces before others are lines, without the carriage returns they end in. -/
theorem linesOfPieces_append {before after : List (List Char)} (hafter : after ≠ []) :
    linesOfPieces (before ++ after) = before.map dropReturn ++ linesOfPieces after := by
  induction before with
  | nil => rfl
  | cons piece before ih =>
    have hne : before ++ after ≠ [] := by simp [hafter]
    rw [List.cons_append, linesOfPieces.eq_3 _ _ hne, ih]
    rfl

/-- A line has no line feed in it. -/
theorem not_mem_of_mem_lines (h : line ∈ lines s) : '\n' ∉ line := by
  obtain ⟨piece, hpiece, hline⟩ := exists_of_mem_linesOfPieces h
  exact fun hmem => not_mem_of_mem_splitAt hpiece (hline hmem)

theorem subset_joinWith {sep piece : List Char} {pieces : List (List Char)}
    (h : piece ∈ pieces) : piece ⊆ joinWith sep pieces := by
  induction pieces with
  | nil => cases h
  | cons first pieces ih =>
    by_cases hlast : pieces = []
    · rw [hlast, List.mem_singleton] at h
      rw [hlast, h, joinWith]
      exact List.Subset.refl first
    · rw [joinWith_cons hlast]
      rcases List.mem_cons.1 h with rfl | h
      · exact List.subset_append_of_subset_left _ (List.subset_append_left piece sep)
      · exact List.subset_append_of_subset_right _ (ih h)

/-- A character of pieces put together is one of a piece or of the separator. -/
theorem mem_of_mem_joinWith {sep : List Char} {pieces : List (List Char)}
    (h : c ∈ joinWith sep pieces) : (∃ piece ∈ pieces, c ∈ piece) ∨ c ∈ sep := by
  induction pieces with
  | nil => cases h
  | cons first pieces ih =>
    by_cases hlast : pieces = []
    · rw [hlast, joinWith] at h
      exact .inl ⟨first, List.mem_cons_self, h⟩
    · rw [joinWith_cons hlast, List.mem_append, List.mem_append] at h
      rcases h with (h | h) | h
      · exact .inl ⟨first, List.mem_cons_self, h⟩
      · exact .inr h
      · rcases ih h with ⟨piece, hpiece, h⟩ | h
        · exact .inl ⟨piece, List.mem_cons_of_mem first hpiece, h⟩
        · exact .inr h

theorem mem_of_mem_lines (h : line ∈ lines s) (hc : c ∈ line) : c ∈ s := by
  obtain ⟨piece, hpiece, hline⟩ := exists_of_mem_linesOfPieces h
  rw [← joinWith_splitAt '\n' s]
  exact subset_joinWith hpiece (hline hc)

/-- A text without a line feed is one line, unless it is empty. -/
theorem lines_of_not_mem (h : '\n' ∉ s) (hne : s ≠ []) : lines s = [s] := by
  rw [lines, splitAt_of_not_mem h, linesOfPieces, List.isEmpty_eq_false_iff.2 hne]
  rfl

/-- Lines that are each written with a line feed behind it. -/
theorem splitAt_flatMap {pieces : List (List Char)} (h : ∀ piece ∈ pieces, '\n' ∉ piece) :
    splitAt '\n' (pieces.flatMap (· ++ ['\n'])) = pieces ++ [[]] := by
  induction pieces with
  | nil => rfl
  | cons piece pieces ih =>
    rw [List.flatMap_cons, List.append_assoc, List.singleton_append,
      splitAt_append (h piece List.mem_cons_self), ih fun p hp => h p (List.mem_cons_of_mem _ hp)]
    rfl

theorem lines_flatMap {pieces : List (List Char)} (h : ∀ piece ∈ pieces, '\n' ∉ piece)
    (hreturn : ∀ piece ∈ pieces, piece.getLast? ≠ some '\r') :
    lines (pieces.flatMap (· ++ ['\n'])) = pieces := by
  have hmap : pieces.map dropReturn = pieces.map id :=
    List.map_congr_left fun piece hpiece => dropReturn_of_ne (hreturn piece hpiece)
  rw [lines, splitAt_flatMap h, linesOfPieces_append (by simp), hmap, List.map_id]
  simp [linesOfPieces]

/-- How a line ends: with a line feed, and maybe a carriage return before it. -/
def ending (withReturn : Bool) : List Char := if withReturn then ['\r', '\n'] else ['\n']

/-- Lines that each end in one of the two ways are read as they are. -/
theorem lines_flatMap_ending {pieces : List (List Char × Bool)}
    (hfeed : ∀ piece ∈ pieces, '\n' ∉ piece.1) (hreturn : ∀ piece ∈ pieces, '\r' ∉ piece.1) :
    lines (pieces.flatMap fun piece => piece.1 ++ ending piece.2) = pieces.map (·.1) := by
  let raw (piece : List Char × Bool) : List Char := piece.1 ++ if piece.2 then ['\r'] else []
  have hraw : (pieces.flatMap fun piece => piece.1 ++ ending piece.2) =
      (pieces.map raw).flatMap (· ++ ['\n']) := by
    rw [List.flatMap_map]
    congr
    funext ⟨piece, withReturn⟩
    cases withReturn <;> simp [raw, ending]
  have hdrop : (pieces.map raw).map dropReturn = pieces.map (·.1) := by
    rw [List.map_map]
    refine List.map_congr_left fun piece hpiece => ?_
    obtain ⟨piece, withReturn⟩ := piece
    cases withReturn with
    | true => simp [raw, dropReturn]
    | false =>
      have hlast : piece.getLast? ≠ some '\r' :=
        fun h => hreturn _ hpiece (List.mem_of_getLast? h)
      simp [raw, dropReturn_of_ne hlast]
  have hfeeds : ∀ piece ∈ pieces.map raw, '\n' ∉ piece := by
    intro written hwritten
    obtain ⟨⟨piece, withReturn⟩, hpiece, rfl⟩ := List.mem_map.1 hwritten
    have hnot := hfeed _ hpiece
    cases withReturn <;> simpa [raw] using hnot
  rw [lines, hraw, splitAt_flatMap hfeeds, linesOfPieces_append (by simp), hdrop]
  simp [linesOfPieces]

theorem count_flatMap {pieces : List (List Char)} (h : ∀ piece ∈ pieces, '\n' ∉ piece) :
    (pieces.flatMap (· ++ ['\n'])).count '\n' = pieces.length := by
  induction pieces with
  | nil => rfl
  | cons piece pieces ih =>
    have hpiece : piece.count '\n' = 0 := List.count_eq_zero.2 (h piece List.mem_cons_self)
    rw [List.flatMap_cons, List.count_append, List.count_append, hpiece,
      ih fun p hp => h p (List.mem_cons_of_mem _ hp), List.length_cons]
    simp
    omega

/-! ## Trimming and shortening -/

theorem infix_of_trim (s : List Char) : trim s <:+: s := by
  have hstart : trimStart s <:+ s := List.dropWhile_suffix _
  exact (trim_prefix_trimStart s).isInfix.trans hstart.isInfix

theorem mem_of_mem_trim (h : c ∈ trim s) : c ∈ s := (infix_of_trim s).subset h

/-- What does not begin with a character of a class is found behind a run of that class. -/
theorem infix_dropWhile_iff {p : Char → Bool} {needle : List Char} (hne : needle ≠ [])
    (hhead : ∀ c ∈ needle.head?, p c = false) : needle <:+: s.dropWhile p ↔ needle <:+: s := by
  induction s with
  | nil => rfl
  | cons c s ih =>
    cases hc : p c with
    | false => rw [List.dropWhile_cons_of_neg (by simp [hc])]
    | true =>
      rw [List.dropWhile_cons_of_pos hc, ih, List.infix_cons_iff]
      have hstart : ¬ needle <+: c :: s := by
        intro hprefix
        obtain ⟨d, rest, rfl⟩ := List.exists_cons_of_ne_nil hne
        obtain ⟨rfl, -⟩ := List.cons_prefix_cons.1 hprefix
        rw [hhead d rfl] at hc
        cases hc
      simp [hstart]

/-- Trimming takes nothing away from what neither begins nor ends with a blank. -/
theorem contains_trim {needle : List Char} (hne : needle ≠ [])
    (hhead : needle.head?.any Text.isBlank = false)
    (hlast : needle.getLast?.any Text.isBlank = false) :
    contains (trim s) needle = contains s needle := by
  rw [Option.any_eq_false] at hhead hlast
  have hreverse : ∀ c ∈ needle.reverse.head?, Text.isBlank c = false := by
    rwa [List.head?_reverse]
  rw [Bool.eq_iff_iff, contains_iff_infix, contains_iff_infix, trim, trimEnd,
    ← List.reverse_infix, List.reverse_reverse,
    infix_dropWhile_iff (by simpa using hne) hreverse, List.reverse_infix, trimStart,
    infix_dropWhile_iff hne hhead]

theorem length_truncate_le (s : List Char) (max : Nat) : (truncate s max).length ≤ max := by
  rw [truncate]
  split
  case isTrue h => exact h
  case isFalse =>
    split
    · exact List.length_take_le max s
    · simp
      omega

theorem length_tail_le (s : List Char) (max : Nat) : (tail s max).length ≤ max := by
  rw [tail, List.length_drop]
  omega

theorem truncate_ne_nil (h : s ≠ []) {max : Nat} (hmax : 0 < max) : truncate s max ≠ [] := by
  rw [truncate]
  split
  · exact h
  · split
    · simpa [List.take_eq_nil_iff, h] using Nat.ne_of_gt hmax
    · simp

theorem not_mem_truncate (h : c ∉ s) (hc : c ≠ '.') (max : Nat) : c ∉ truncate s max := by
  have htake (n : Nat) : c ∉ s.take n := fun hmem => h (List.mem_of_mem_take hmem)
  rw [truncate]
  split
  · exact h
  · split
    · exact htake max
    · simpa [hc] using htake (max - 3)

/-! ## Numerals -/

/-- A number is written with digits only. -/
theorem isDigit_of_mem_repr {n : Nat} (h : c ∈ (Nat.repr n).toList) : c.isDigit = true := by
  rw [Nat.toList_repr] at h
  exact Nat.isDigit_of_mem_toDigits (by decide) (by decide) h

theorem not_mem_repr (h : c.isDigit = false) (n : Nat) : c ∉ (Nat.repr n).toList := by
  intro hc
  rw [isDigit_of_mem_repr hc] at h
  cases h

end RemapSynth.Chars
