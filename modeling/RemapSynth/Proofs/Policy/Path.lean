/-
Reading a path that is assigned to. A path is word characters in segments
with a dot between any two of them (`IsPath`); blanks and the equals sign are
no word characters, so a path ends where they begin, and what is written as
an assignment is read as that assignment (`target?_eq_some_iff`).
-/
import Mathlib.Data.List.TakeWhile
import RemapSynth.Policy.Assignment
import RemapSynth.Proofs.Text.Pieces
import RemapSynth.Proofs.Text.Trim

namespace RemapSynth

/-! ## Blanks and word characters -/

namespace Text

/-- No blank is a word character. -/
theorem isWord_of_isBlank {c : Char} (h : isBlank c = true) : isWord c = false := by
  have hall : ∀ n ∈ blankCodes, isWord (Char.ofNat n) = false := by decide +kernel
  have hc := hall _ (toNat_mem_blankCodes h)
  rwa [Char.ofNat_toNat] at hc

end Text

namespace Policy

open Chars (joinWith joinWith_cons trimStart takeWhile_append_of_head)

variable {gap behind s rest after : List Char} {path : List (List Char)} {c : Char}

/-! ## Reading a path -/

/-- A path that can be written: it has segments, and each is of word characters and not empty. -/
structure IsPath (path : List (List Char)) : Prop where
  ne_nil : path ≠ []
  segment_ne_nil : ∀ name ∈ path, name ≠ []
  isWord : ∀ name ∈ path, ∀ c ∈ name, Text.isWord c = true

theorem IsPath.tail {name next : List Char} (h : IsPath (name :: next :: path)) :
    IsPath (next :: path) :=
  ⟨by simp, fun x hx => h.segment_ne_nil x (List.mem_cons_of_mem _ hx),
    fun x hx => h.isWord x (List.mem_cons_of_mem _ hx)⟩

theorem isPath_singleton {name : List Char} (hne : name ≠ []) (h : name.all Text.isWord = true) :
    IsPath [name] :=
  ⟨by simp, by simpa using hne, by simpa using h⟩

theorem IsPath.cons {name : List Char} (h : IsPath path) (hne : name ≠ [])
    (hname : ∀ c ∈ name, Text.isWord c = true) : IsPath (name :: path) :=
  ⟨by simp, List.forall_mem_cons.2 ⟨hne, h.segment_ne_nil⟩,
    List.forall_mem_cons.2 ⟨hname, h.isWord⟩⟩

/-- A path is made of word characters and dots. -/
theorem IsPath.mem_joinWith (h : IsPath path) (hc : c ∈ joinWith ['.'] path) :
    Text.isWord c = true ∨ c = '.' := by
  induction path with
  | nil => cases hc
  | cons name path ih =>
    cases path with
    | nil => exact .inl (h.isWord name (by simp) c hc)
    | cons next path =>
      rw [joinWith_cons (by simp), List.mem_append, List.mem_append, List.mem_singleton] at hc
      rcases hc with (hc | hc) | hc
      · exact .inl (h.isWord name (by simp) c hc)
      · exact .inr hc
      · exact ih h.tail hc

/-- What is written as a path is read as that path, as far as it goes. -/
theorem segments_joinWith (h : IsPath path)
    (hrest : ∀ c ∈ rest.head?, Text.isWord c = false ∧ c ≠ '.') :
    segments (joinWith ['.'] path ++ rest) = (path, rest) := by
  induction path with
  | nil => exact absurd rfl h.ne_nil
  | cons name path ih =>
    have hname : ∀ c ∈ name, Text.isWord c = true := h.isWord name (by simp)
    have hne : name.isEmpty = false := by simpa using h.segment_ne_nil name (by simp)
    cases path with
    | nil =>
      have hstop := takeWhile_append_of_head hname fun c hc => (hrest c hc).1
      rw [joinWith, segments.eq_def, hstop.1, hne, if_neg (by simp)]
      split
      next more hdrop =>
        rw [hstop.2] at hdrop
        exact absurd rfl (hrest '.' (by simp [hdrop])).2
      next => rw [hstop.2]
    | cons next path =>
      have hdot : ∀ c ∈ ('.' :: (joinWith ['.'] (next :: path) ++ rest)).head?,
          Text.isWord c = false := by
        intro c hc
        cases hc
        decide
      have hstop := takeWhile_append_of_head hname hdot
      have hline : joinWith ['.'] (name :: next :: path) ++ rest =
          name ++ '.' :: (joinWith ['.'] (next :: path) ++ rest) := by
        simp [joinWith_cons]
      rw [hline, segments.eq_def, hstop.1, hne, if_neg (by simp)]
      split
      next more hdrop =>
        rw [hstop.2] at hdrop
        cases hdrop
        rw [ih h.tail]
      next hnone => exact absurd hstop.2 (hnone _)

/-- What is read as a path is written there, as far as it goes. -/
theorem of_segments (h : segments s = (path, rest)) (hne : path ≠ []) :
    IsPath path ∧ s = joinWith ['.'] path ++ rest := by
  have hword : ∀ c ∈ s.takeWhile Text.isWord, Text.isWord c = true :=
    fun c hc => List.mem_takeWhile_imp hc
  fun_induction segments s generalizing path rest with
  | case1 s hempty => exact absurd (Prod.mk.inj h).1.symm hne
  | case2 s hempty more hdrop _ _ hmore ih =>
    cases h
    refine ⟨isPath_singleton (by simpa using hempty) (List.all_eq_true.2 hword), ?_⟩
    rw [joinWith, ← hdrop, List.takeWhile_append_dropWhile]
  | case3 s hempty more hdrop _ names after hnames hmore ih =>
    cases h
    obtain ⟨hpath, hwritten⟩ :=
      ih hmore (by simpa using hnames) fun c hc => List.mem_takeWhile_imp hc
    refine ⟨hpath.cons (by simpa using hempty) hword, ?_⟩
    rw [joinWith_cons hpath.ne_nil, List.append_assoc, List.append_assoc, ← hwritten,
      List.singleton_append, ← hdrop, List.takeWhile_append_dropWhile]
  | case4 s hempty hrest =>
    cases h
    refine ⟨isPath_singleton (by simpa using hempty) (List.all_eq_true.2 hword), ?_⟩
    rw [joinWith, List.takeWhile_append_dropWhile]

/-! ## Reading an assignment -/

/-- A path, blanks, an equals sign and what is behind it. -/
theorem segments_assigned (h : IsPath path) (hgap : ∀ c ∈ gap, Text.isBlank c = true) :
    segments (joinWith ['.'] path ++ gap ++ '=' :: behind) = (path, gap ++ '=' :: behind) := by
  rw [List.append_assoc]
  refine segments_joinWith h fun c hc => ?_
  cases gap with
  | nil =>
    cases hc
    decide
  | cons d gap =>
    cases hc
    have hd : Text.isBlank c = true := hgap c (by simp)
    refine ⟨Text.isWord_of_isBlank hd, ?_⟩
    rintro rfl
    exact absurd hd (by decide)

theorem trimStart_assigned (hgap : ∀ c ∈ gap, Text.isBlank c = true) :
    trimStart (gap ++ '=' :: behind) = '=' :: behind := by
  have hsign : ∀ c ∈ ('=' :: behind).head?, Text.isBlank c = false := by
    intro c hc
    cases hc
    decide
  exact (takeWhile_append_of_head hgap hsign).2

/-- Just what is written as an assignment, and has something behind its sign, is read as one. -/
theorem target?_eq_some_iff :
    target? s = some (path, after) ↔ IsPath path ∧ ∃ gap c, (∀ c ∈ gap, Text.isBlank c = true) ∧
      c ≠ '=' ∧ s = joinWith ['.'] path ++ gap ++ '=' :: c :: after := by
  constructor
  · intro h
    rw [target?] at h
    split at h
    next => cases h
    next path' rest hne hsegments =>
      split at h
      next c behind htrim =>
        split at h
        next => cases h
        next hc =>
          cases h
          obtain ⟨hpath, rfl⟩ := of_segments hsegments fun hnil => hne hnil
          refine ⟨hpath, rest.takeWhile Text.isBlank, c,
            fun d hd => List.mem_takeWhile_imp hd, hc, ?_⟩
          rw [List.append_assoc, ← htrim, trimStart, List.takeWhile_append_dropWhile]
      next => cases h
  · rintro ⟨hpath, gap, c, hgap, hc, rfl⟩
    rw [target?, segments_assigned hpath hgap]
    split
    next hnil => exact absurd (Prod.mk.inj hnil).1 hpath.ne_nil
    next path' rest _ heq =>
      cases heq
      rw [trimStart_assigned hgap]
      exact if_neg hc

end Policy
end RemapSynth
