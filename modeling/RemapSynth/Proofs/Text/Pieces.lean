/-
Cutting a text at a separator and putting the pieces together again. The
two undo each other: on any text one way, and the other way on pieces that
do not hold the separator, unless there are none of them (no pieces and one
empty piece both make the empty text). A text is also cut at the first
occurrence of another (`breakOn_eq_some_iff`, `breakOn_append`).
-/
import RemapSynth.Text.Line
import RemapSynth.Text.Search

namespace RemapSynth

namespace Chars

theorem splitAt_ne_nil (sep : Char) (s : List Char) : splitAt sep s ≠ [] := by
  cases s with
  | nil => simp [splitAt]
  | cons c s =>
    rw [splitAt]
    split
    · simp
    · split <;> simp

theorem splitAt_cons_of_ne {sep c : Char} (hc : c ≠ sep) (s : List Char) :
    ∃ piece pieces, splitAt sep s = piece :: pieces ∧
      splitAt sep (c :: s) = (c :: piece) :: pieces := by
  cases hs : splitAt sep s with
  | nil => exact absurd hs (splitAt_ne_nil sep s)
  | cons piece pieces => exact ⟨piece, pieces, rfl, by simp [splitAt, hc, hs]⟩

theorem joinWith_cons {sep piece : List Char} {pieces : List (List Char)} (h : pieces ≠ []) :
    joinWith sep (piece :: pieces) = piece ++ sep ++ joinWith sep pieces := by
  cases pieces with
  | nil => exact absurd rfl h
  | cons next pieces => rfl

theorem prefix_joinWith (sep piece : List Char) (pieces : List (List Char)) :
    piece <+: joinWith sep (piece :: pieces) := by
  cases pieces with
  | nil => exact List.prefix_refl piece
  | cons next pieces =>
    rw [joinWith_cons (by simp), List.append_assoc]
    exact List.prefix_append piece _

/-- The pieces of a text put together are the text. -/
theorem joinWith_splitAt (sep : Char) (s : List Char) : joinWith [sep] (splitAt sep s) = s := by
  induction s with
  | nil => rfl
  | cons c s ih =>
    by_cases hc : c = sep
    · rw [splitAt, if_pos hc, joinWith_cons (splitAt_ne_nil sep s), ih, hc]
      rfl
    · obtain ⟨piece, pieces, hs, hcs⟩ := splitAt_cons_of_ne hc s
      rw [hs] at ih
      rw [hcs]
      cases pieces with
      | nil => simpa [joinWith] using ih
      | cons next pieces => simpa [joinWith] using ih

/-- No piece holds the separator. -/
theorem not_mem_of_mem_splitAt {sep : Char} {s piece : List Char} (h : piece ∈ splitAt sep s) :
    sep ∉ piece := by
  induction s generalizing piece with
  | nil =>
    rw [splitAt, List.mem_singleton] at h
    simp [h]
  | cons c s ih =>
    by_cases hc : c = sep
    · rw [splitAt, if_pos hc, List.mem_cons] at h
      rcases h with rfl | h
      · exact List.not_mem_nil
      · exact ih h
    · obtain ⟨first, pieces, hs, hcs⟩ := splitAt_cons_of_ne hc s
      rw [hs] at ih
      rw [hcs, List.mem_cons] at h
      rcases h with rfl | h
      · have hfirst : sep ∉ first := ih List.mem_cons_self
        rw [List.mem_cons, not_or]
        exact ⟨Ne.symm hc, hfirst⟩
      · exact ih (List.mem_cons_of_mem first h)

theorem splitAt_of_not_mem {sep : Char} {s : List Char} (h : sep ∉ s) : splitAt sep s = [s] := by
  induction s with
  | nil => rfl
  | cons c s ih =>
    rw [List.mem_cons, not_or] at h
    rw [splitAt, if_neg (Ne.symm h.1), ih h.2]

theorem splitAt_append_cons (sep : Char) (s t : List Char) :
    splitAt sep (s ++ sep :: t) = splitAt sep s ++ splitAt sep t := by
  induction s with
  | nil => simp [splitAt]
  | cons c s ih =>
    by_cases hc : c = sep
    · rw [List.cons_append, splitAt, if_pos hc, splitAt, if_pos hc, ih]
      rfl
    · obtain ⟨piece, pieces, hs, hcs⟩ := splitAt_cons_of_ne hc s
      obtain ⟨piece', pieces', hst, hcst⟩ := splitAt_cons_of_ne hc (s ++ sep :: t)
      rw [ih, hs, List.cons_append, List.cons.injEq] at hst
      rw [List.cons_append, hcst, hcs, List.cons_append, hst.1, hst.2]

theorem splitAt_append {sep : Char} {piece : List Char} (h : sep ∉ piece) (s : List Char) :
    splitAt sep (piece ++ sep :: s) = piece :: splitAt sep s := by
  rw [splitAt_append_cons, splitAt_of_not_mem h]
  rfl

/-- Pieces put together and cut again are the same pieces. -/
theorem splitAt_joinWith {sep : Char} {pieces : List (List Char)} (hne : pieces ≠ [])
    (h : ∀ piece ∈ pieces, sep ∉ piece) : splitAt sep (joinWith [sep] pieces) = pieces := by
  induction pieces with
  | nil => exact absurd rfl hne
  | cons piece pieces ih =>
    have hpiece : sep ∉ piece := h piece List.mem_cons_self
    by_cases hlast : pieces = []
    · rw [hlast, joinWith, splitAt_of_not_mem hpiece]
    · rw [joinWith_cons hlast, List.append_assoc, List.singleton_append, splitAt_append hpiece,
        ih hlast fun next hnext => h next (List.mem_cons_of_mem piece hnext)]

theorem eq_append_of_afterStart? {needle s after : List Char}
    (h : afterStart? needle s = some after) : s = needle ++ after := by
  rw [afterStart?] at h
  split at h
  case isTrue hprefix =>
    rw [Option.some.injEq] at h
    rw [← h]
    exact (List.prefix_iff_eq_append.mp (List.isPrefixOf_iff_prefix.mp hprefix)).symm
  case isFalse => cases h

/-- What lies before and after an occurrence, with the occurrence between, is the text. -/
theorem eq_append_of_breakOn {needle s before after : List Char}
    (h : breakOn needle s = some (before, after)) : s = before ++ needle ++ after := by
  induction s generalizing before with
  | nil =>
    rw [breakOn] at h
    split at h
    case isTrue hneedle =>
      cases h
      simpa using List.isEmpty_iff.mp hneedle
    case isFalse => cases h
  | cons c s ih =>
    rw [breakOn] at h
    split at h
    case h_1 rest hstart =>
      cases h
      exact eq_append_of_afterStart? hstart
    case h_2 =>
      obtain ⟨⟨front, rest⟩, hrest, heq⟩ := Option.map_eq_some_iff.mp h
      cases heq
      rw [ih hrest]
      rfl

/-- A text that occurs is cut out by its first occurrence. -/
theorem contains_iff_breakOn {s needle : List Char} :
    contains s needle = true ↔ ∃ before after, breakOn needle s = some (before, after) := by
  rw [contains, Option.isSome_iff_exists]
  exact Prod.exists

theorem afterStart?_eq_none_iff {needle s : List Char} :
    afterStart? needle s = none ↔ ¬ needle <+: s := by
  rw [afterStart?, ← List.isPrefixOf_iff_prefix]
  split <;> simp_all

/-- A text is found wherever it occurs. -/
theorem contains_iff_infix {s needle : List Char} : contains s needle = true ↔ needle <:+: s := by
  constructor
  · intro h
    obtain ⟨before, after, h⟩ := contains_iff_breakOn.1 h
    exact ⟨before, after, (eq_append_of_breakOn h).symm⟩
  · intro h
    rw [contains]
    induction s with
    | nil =>
      rw [List.infix_nil] at h
      simp [breakOn, h]
    | cons c s ih =>
      rw [breakOn]
      split
      case h_1 => rfl
      case h_2 hstart =>
        rw [afterStart?_eq_none_iff] at hstart
        have hlater : needle <:+: s := (List.infix_cons_iff.1 h).resolve_left hstart
        simpa using ih hlater

/-- There is no occurrence before the first one. -/
theorem not_infix_of_breakOn {needle s before after : List Char} (hne : needle ≠ [])
    (h : breakOn needle s = some (before, after)) : ¬ needle <:+: before := by
  induction s generalizing before with
  | nil =>
    rw [breakOn, List.isEmpty_eq_false_iff.2 hne] at h
    cases h
  | cons c s ih =>
    rw [breakOn] at h
    split at h
    case h_1 =>
      cases h
      simpa using hne
    case h_2 hstart =>
      obtain ⟨⟨front, rest⟩, hrest, heq⟩ := Option.map_eq_some_iff.1 h
      cases heq
      rw [afterStart?_eq_none_iff] at hstart
      rw [List.infix_cons_iff, not_or]
      refine ⟨fun hprefix => hstart ?_, ih hrest⟩
      rw [eq_append_of_breakOn hrest, List.append_assoc]
      exact hprefix.trans (List.prefix_append (c :: front) _)

/-- The first occurrence of a text in another, told by what stands before and behind it. -/
structure FirstIn (needle s before after : List Char) : Prop where
  split : s = before ++ needle ++ after
  least : ∀ front rest, s = front ++ needle ++ rest → before.length ≤ front.length

theorem FirstIn.of_breakOn {needle s before after : List Char}
    (h : breakOn needle s = some (before, after)) : FirstIn needle s before after := by
  refine ⟨eq_append_of_breakOn h, fun front rest hs => ?_⟩
  induction s generalizing before front with
  | nil =>
    have hlength := congrArg List.length (eq_append_of_breakOn h)
    simp only [List.length_append, List.length_nil] at hlength
    omega
  | cons c s ih =>
    rw [breakOn] at h
    split at h
    case h_1 =>
      cases h
      exact Nat.zero_le _
    case h_2 hstart =>
      obtain ⟨⟨before, after⟩, hbreak, heq⟩ := Option.map_eq_some_iff.1 h
      cases heq
      cases front with
      | nil =>
        rw [afterStart?_eq_none_iff, hs] at hstart
        exact absurd (List.prefix_append needle rest) hstart
      | cons d front =>
        obtain ⟨-, hs⟩ := List.cons.inj hs
        exact Nat.succ_le_succ (ih hbreak front hs)

/-- A text is cut at its first occurrence. -/
theorem breakOn_eq_some_iff {needle s before after : List Char} :
    breakOn needle s = some (before, after) ↔ FirstIn needle s before after := by
  refine ⟨.of_breakOn, fun ⟨hsplit, hleast⟩ => ?_⟩
  have hin : contains s needle = true :=
    contains_iff_infix.2 ⟨before, after, hsplit.symm⟩
  obtain ⟨front, rest, hbreak⟩ := contains_iff_breakOn.1 hin
  obtain ⟨hsplit', hleast'⟩ := FirstIn.of_breakOn hbreak
  have hlength : before.length = front.length :=
    Nat.le_antisymm (hleast front rest hsplit') (hleast' before after hsplit)
  rw [hsplit, List.append_assoc, List.append_assoc] at hsplit'
  obtain ⟨rfl, hrest⟩ := List.append_inj hsplit' hlength
  rw [hbreak, List.append_cancel_left hrest]

theorem afterStart?_append (needle rest : List Char) :
    afterStart? needle (needle ++ rest) = some rest := by
  have hprefix : needle.isPrefixOf (needle ++ rest) = true :=
    List.isPrefixOf_iff_prefix.2 (List.prefix_append needle rest)
  rw [afterStart?, if_pos hprefix, List.drop_left]

/-- An occurrence is the first if none ends before it does. -/
theorem breakOn_append {needle before : List Char} (hne : needle ≠ [])
    (h : ¬ needle <:+: before ++ needle.dropLast) (after : List Char) :
    breakOn needle (before ++ needle ++ after) = some (before, after) := by
  induction before with
  | nil =>
    obtain ⟨c, rest, rfl⟩ := List.exists_cons_of_ne_nil hne
    have hstart := afterStart?_append (c :: rest) after
    rw [List.cons_append] at hstart
    show breakOn (c :: rest) (c :: (rest ++ after)) = some ([], after)
    rw [breakOn, hstart]
  | cons c before ih =>
    rw [List.cons_append, List.infix_cons_iff, not_or] at h
    have hstart : afterStart? needle (c :: (before ++ needle ++ after)) = none := by
      rw [afterStart?_eq_none_iff]
      intro hprefix
      -- so close to the front the occurrence ends before the one that is told
      have hfront : c :: (before ++ needle.dropLast) <+: c :: (before ++ needle ++ after) := by
        rw [List.prefix_cons_inj, List.append_assoc, List.prefix_append_right_inj]
        exact (List.dropLast_prefix needle).trans (List.prefix_append needle after)
      refine h.1 (List.prefix_of_prefix_length_le hprefix hfront ?_)
      simp
      omega
    show breakOn needle (c :: (before ++ needle ++ after)) = some (c :: before, after)
    rw [breakOn, hstart, ih h.2]
    rfl

/-- No occurrence goes beyond a character that it does not have. -/
theorem infix_append_cons_iff {needle front rest : List Char} {c : Char} (hc : c ∉ needle) :
    needle <:+: front ++ c :: rest ↔ needle <:+: front ∨ needle <:+: rest := by
  have hhead {s : List Char} (hs : s <+: c :: rest) (hsub : ∀ d ∈ s, d ∈ needle) : s = [] := by
    cases s with
    | nil => rfl
    | cons d s =>
      obtain ⟨rfl, -⟩ := List.cons_prefix_cons.1 hs
      exact absurd (hsub d List.mem_cons_self) hc
  constructor
  · intro h
    obtain h | h | ⟨s, t, rfl, hs, ht⟩ := List.infix_append_iff.1 h
    · exact .inl h
    · obtain h | h := List.infix_cons_iff.1 h
      · rw [hhead h fun d hd => hd]
        exact .inl List.nil_infix
      · exact .inr h
    · obtain rfl := hhead ht fun d hd => List.mem_append_right s hd
      rw [List.append_nil]
      exact .inl hs.isInfix
  · rintro (h | h)
    · exact h.trans (List.prefix_append _ _).isInfix
    · exact h.trans ((List.suffix_cons c rest).trans (List.suffix_append _ _)).isInfix

/-- A run of characters of a class ends where the next one is not of it. -/
theorem takeWhile_append_of_head {p : Char → Bool} {run rest : List Char}
    (h : ∀ c ∈ run, p c = true) (hrest : ∀ c ∈ rest.head?, p c = false) :
    (run ++ rest).takeWhile p = run ∧ (run ++ rest).dropWhile p = rest := by
  have hstop : rest.takeWhile p = [] ∧ rest.dropWhile p = rest := by
    cases rest with
    | nil => exact ⟨rfl, rfl⟩
    | cons c rest =>
      have hc : p c = false := hrest c rfl
      simp [hc]
  rw [List.takeWhile_append_of_pos h, List.dropWhile_append_of_pos h, hstop.1, hstop.2,
    List.append_nil]
  exact ⟨rfl, rfl⟩

theorem dropWhile_ne_append {c : Char} {before : List Char} (h : c ∉ before) (after : List Char) :
    (before ++ c :: after).dropWhile (· ≠ c) = c :: after := by
  have hothers : ∀ d ∈ before, decide (d ≠ c) = true := by
    intro d hd
    exact decide_eq_true fun heq => h (heq ▸ hd)
  exact (takeWhile_append_of_head hothers (by simp)).2

/-- What is left when all before the first `c` is dropped. -/
theorem exists_of_dropWhile_ne {c d : Char} {s rest : List Char}
    (h : s.dropWhile (· ≠ c) = d :: rest) :
    ∃ before, s = before ++ c :: rest ∧ c ∉ before ∧ d = c := by
  have hd : d = c := by
    have hnot := List.head?_dropWhile_not (· ≠ c) s
    rw [h] at hnot
    simpa using hnot
  refine ⟨s.takeWhile (· ≠ c), ?_, ?_, hd⟩
  · rw [← hd, ← h, hd, List.takeWhile_append_dropWhile]
  · intro hc
    simpa using List.all_eq_true.1 List.all_takeWhile c hc

end Chars

/-- Texts put together are their characters put together. -/
theorem Text.toList_joinWith (sep : String) (texts : List String) :
    (joinWith sep texts).toList = Chars.joinWith sep.toList (texts.map String.toList) := by
  induction texts with
  | nil => rfl
  | cons text texts ih =>
    cases texts with
    | nil => rfl
    | cons next texts =>
      rw [joinWith, String.toList_append, String.toList_append, ih]
      · rfl
      · simp

end RemapSynth
