/-
Which assignments a scan of a line finds. An assignment is a place in the
line (`Target`): a dot where a path may begin, the path, blanks, and a single
equals sign. The scan takes the character behind the sign as well, so it finds
no assignment whose sign ends the line, and none whose dot stands right behind
a character that it has taken (`Found`). All others it finds, and nothing else
(`mem_assignments_iff`).
-/
import Mathlib.Data.List.Chain
import RemapSynth.Proofs.Policy.Path

namespace RemapSynth.Policy

open Chars (joinWith)

variable {line front front' gap behind s rest after : List Char} {path path' : List (List Char)}
  {c : Char}

/-! ## Places in a line -/

/-- In `line`, behind `front`, `path` is assigned to: a dot stands where a path may begin, then
come the path, blanks, and an equals sign with `behind` behind it, which does not make it a
double one. -/
structure Target (line front : List Char) (path : List (List Char)) (behind : List Char) :
    Prop where
  begins : ∀ c ∈ front.getLast?, blocksPath c = false
  isPath : IsPath path
  single : behind.head? ≠ some '='
  written : ∃ gap, (∀ c ∈ gap, Text.isBlank c = true) ∧
    line = front ++ '.' :: (joinWith ['.'] path ++ gap ++ '=' :: behind)

/-- At most one path is assigned to behind a front. -/
theorem Target.unique {behind' : List Char} (h : Target line front path behind)
    (h' : Target line front path' behind') : path = path' ∧ behind = behind' := by
  obtain ⟨gap, hgap, hline⟩ := h.written
  obtain ⟨gap', hgap', hline'⟩ := h'.written
  have hrest := (List.cons.inj (List.append_cancel_left (hline.symm.trans hline'))).2
  have hread : segments (joinWith ['.'] path ++ gap ++ '=' :: behind) = _ :=
    segments_assigned h.isPath hgap
  rw [hrest, segments_assigned h'.isPath hgap', Prod.mk.injEq] at hread
  have hsign : Chars.trimStart (gap ++ '=' :: behind) = _ := trimStart_assigned hgap
  rw [← hread.2, trimStart_assigned hgap'] at hsign
  exact ⟨hread.1.symm, (List.cons.inj hsign).2.symm⟩

theorem Target.exists_dot (h : Target line front path behind) :
    ∃ rest, line = (front ++ ['.']) ++ rest := by
  obtain ⟨gap, -, hline⟩ := h.written
  exact ⟨_, by simpa using hline⟩

theorem Target.exists_init (h : Target line front path (c :: after)) :
    ∃ init, line = init ++ after := by
  obtain ⟨gap, -, hline⟩ := h.written
  exact ⟨front ++ '.' :: (joinWith ['.'] path ++ gap ++ ['=', c]), by simpa using hline⟩

theorem Target.eq_of_length (h : Target line front path behind)
    (h' : Target line front' path' after) (hlength : front.length = front'.length) :
    front = front' := by
  obtain ⟨gap, -, hline⟩ := h.written
  obtain ⟨gap', -, hline'⟩ := h'.written
  exact List.append_inj_left (hline.symm.trans hline') hlength

/-- The least that a line with a target has. -/
theorem Target.length_lt (h : Target line front path behind) :
    front.length + behind.length + 1 < line.length := by
  obtain ⟨gap, -, rfl⟩ := h.written
  simp only [List.length_append, List.length_cons]
  omega

/-- What is looked at for a target, from `s` on, is the place behind what has been looked at and
its first character; at the start of a line, also the very start. -/
theorem assignmentHere?_eq_some_iff {seen : List Char} (hline : line = seen ++ s) :
    assignmentHere? seen.isEmpty s = some (path, after) ↔
      ∃ front c, front.length - 1 = seen.length ∧ Target line front path (c :: after) := by
  constructor
  · intro h
    rw [assignmentHere?.eq_def] at h
    split at h
    next d rest =>
      split at h
      next hstart =>
        -- the very start of the line
        obtain ⟨hseen, rfl⟩ := hstart
        obtain ⟨hpath, gap, c, hgap, hc, rfl⟩ := target?_eq_some_iff.1 h
        obtain rfl : seen = [] := by simpa using hseen
        exact ⟨[], c, rfl, nofun, hpath, by simpa using hc, gap, hgap, hline⟩
      next =>
        split at h
        next => cases h
        next hblocks =>
          split at h
          next rest =>
            obtain ⟨hpath, gap, c, hgap, hc, rfl⟩ := target?_eq_some_iff.1 h
            refine ⟨seen ++ [d], c, by simp, ?_, hpath, by simpa using hc, gap, hgap,
              by simpa using hline⟩
            simpa using hblocks
          next => cases h
    next => cases h
  · rintro ⟨front, c, hlength, hbegins, hpath, hsingle, gap, hgap, hwritten⟩
    have htarget : target? (joinWith ['.'] path ++ gap ++ '=' :: c :: after) = some (path, after) :=
      target?_eq_some_iff.2 ⟨hpath, gap, c, hgap, by simpa using hsingle, rfl⟩
    have hfront : front = [] ∨ ∃ init d, front = init ++ [d] := List.eq_nil_or_concat' front
    rcases hfront with rfl | ⟨init, d, rfl⟩
    · obtain rfl : seen = [] := List.length_eq_zero_iff.1 hlength.symm
      rw [List.nil_append] at hline hwritten
      rw [← hline, hwritten, assignmentHere?.eq_def]
      exact (if_pos ⟨rfl, rfl⟩).trans htarget
    · have hblocks : blocksPath d = false := hbegins d (by simp)
      have hdot : d ≠ '.' := by
        rintro rfl
        cases hblocks
      have hinit : init = seen ∧
          d :: '.' :: (joinWith ['.'] path ++ gap ++ '=' :: c :: after) = s :=
        List.append_inj (by simpa using hwritten.symm.trans hline) (by simpa using hlength)
      obtain ⟨rfl, rfl⟩ := hinit
      rw [assignmentHere?, if_neg (by simp [hdot]), hblocks]
      simpa using htarget

/-! ## What a scan has taken -/

/-- In `line`, the dot behind `front` stands right behind the character that is behind the sign of
the target at `front'`. -/
def Follows (line front front' : List Char) : Prop :=
  ∃ path c after, Target line front' path (c :: after) ∧ line = front ++ after

/-- Whether a scan of `line` finds a target behind `front`: its sign does not end the line, and its
dot does not follow a target that the scan finds. -/
def Found (line front : List Char) : Prop :=
  (∃ path c after, Target line front path (c :: after)) ∧
    ∀ front', front'.length < front.length → Found line front' → ¬ Follows line front front'
termination_by front.length

theorem Follows.length_lt (h : Follows line front front') : front'.length < front.length := by
  obtain ⟨path, c, after, htarget, hline⟩ := h
  have hlength := htarget.length_lt
  have hsum := congrArg List.length hline
  rw [List.length_append] at hsum
  rw [List.length_cons] at hlength
  omega

/-- A target follows another only if a sign stands two places before its dot. -/
theorem not_follows (init : List Char) {d : Char} (hd : d ≠ '=') (front' : List Char) :
    ¬ Follows (init ++ d :: c :: after) (init ++ [d, c]) front' := by
  rintro ⟨path, c', after', ⟨-, -, -, gap, -, hwritten⟩, hline⟩
  obtain rfl : after = after' := by simpa using hline
  have hend : init ++ d :: c :: after =
      (front' ++ '.' :: (joinWith ['.'] path ++ gap)) ++ '=' :: c' :: after := by
    simpa using hwritten
  exact hd (List.cons.inj (List.append_inj_right' hend rfl)).1

theorem found_iff :
    Found line front ↔ (∃ path c after, Target line front path (c :: after)) ∧
      ∀ front', Found line front' → ¬ Follows line front front' := by
  rw [Found]
  refine and_congr_right fun _ => ⟨fun h front' hfound hfollows => ?_, fun h front' _ => h front'⟩
  exact h front' hfollows.length_lt hfound hfollows

/-- A text in which no path can begin but at its very start. -/
def Closed (s : List Char) : Prop := s.IsChain fun c d => d = '.' → blocksPath c = true

theorem Closed.blocksPath (h : Closed s) (hs : s = front ++ c :: '.' :: rest) :
    blocksPath c = true :=
  List.isChain_iff_forall_rel_of_append_cons_cons.1 h hs rfl

/-- From the dot of a target to the character behind its sign no other path can begin. -/
theorem closed_written (hpath : IsPath path) (hgap : ∀ d ∈ gap, Text.isBlank d = true) (c : Char) :
    Closed ('.' :: joinWith ['.'] path ++ ((gap ++ ['=']) ++ [c])) := by
  have hblocks : ∀ d ∈ '.' :: joinWith ['.'] path, Policy.blocksPath d = true := by
    rintro d (_ | ⟨_, hd⟩)
    · rfl
    · rcases hpath.mem_joinWith hd with hd | rfl
      · simp [Policy.blocksPath, hd]
      · rfl
  have hdot : '.' ∉ gap ++ ['='] := by
    rw [List.mem_append, List.mem_singleton]
    rintro (hd | hd)
    · exact absurd (hgap _ hd) (by decide)
    · cases hd
  have hfirst : Closed ('.' :: joinWith ['.'] path) :=
    List.isChain_iff_forall_rel_of_append_cons_cons.2 fun d _ _ _ hs _ => hblocks d (by simp [hs])
  have hmiddle : Closed (gap ++ ['=']) :=
    List.isChain_iff_forall_rel_of_append_cons_cons.2 fun _ e _ _ hs he =>
      absurd (show '.' ∈ gap ++ ['='] by simp [hs, he]) hdot
  have hlast : Closed ((gap ++ ['=']) ++ [c]) := by
    refine hmiddle.append (.singleton c) fun d hd _ _ _ => ?_
    rw [List.getLast?_concat] at hd
    cases hd
    rfl
  refine hfirst.append hlast fun d hd _ _ _ => hblocks d (List.mem_of_mem_getLast? hd)

/-- A target behind another one begins no sooner than at the character behind the other's sign. -/
theorem Target.length_le (h : Target line front path (c :: after))
    (h' : Target line front' path' behind) (hlt : front.length < front'.length) :
    line.length ≤ front'.length + after.length := by
  obtain ⟨gap, hgap, hline⟩ := h.written
  obtain ⟨rest', hdot⟩ := h'.exists_dot
  by_contra hinside
  have hclosed := closed_written h.isPath hgap c
  generalize htext : '.' :: joinWith ['.'] path ++ ((gap ++ ['=']) ++ [c]) = text at hclosed
  have hparts : line = (front ++ text) ++ after := by
    rw [hline, ← htext]
    simp
  have hlength := congrArg List.length hparts
  rw [List.length_append] at hlength
  -- the other dot is in the text of this target, and it is not its first character
  obtain ⟨rest, hrest⟩ : front' ++ ['.'] <+: front ++ text := by
    refine List.prefix_of_prefix_length_le ⟨rest', hdot.symm⟩ ⟨after, hparts.symm⟩ ?_
    rw [List.length_append, List.length_singleton]
    omega
  obtain ⟨init, d, rfl⟩ : ∃ init d, front' = init ++ [d] := by
    rcases List.eq_nil_or_concat' front' with rfl | hfront
    · exact absurd hlt (Nat.not_lt_zero _)
    · exact hfront
  obtain ⟨more, rfl⟩ : front <+: init := by
    refine List.prefix_of_prefix_length_le ⟨_, hline.symm⟩ ⟨_, by simpa using hdot.symm⟩ ?_
    rw [List.length_append, List.length_singleton] at hlt
    omega
  have hblocks : Policy.blocksPath d = true := by
    have hwhole : front ++ text = front ++ (more ++ d :: '.' :: rest) := by
      simpa using hrest.symm
    exact hclosed.blocksPath (List.append_cancel_left hwhole)
  have hopen := h'.begins d (by simp)
  rw [hblocks] at hopen
  cases hopen

/-- Of the targets that begin no sooner than one that is found, the others that are found begin no
sooner than where it ends. -/
theorem Found.eq_or_le {c' : Char} {after' : List Char} (h : Found line front)
    (ht : Target line front path (c :: after)) (h' : Found line front')
    (ht' : Target line front' path' (c' :: after')) (hle : front.length - 1 ≤ front'.length - 1) :
    front' = front ∨ line.length ≤ front'.length - 1 + after.length := by
  have hlt := ht.length_lt
  have hlt' := ht'.length_lt
  rw [List.length_cons] at hlt hlt'
  rcases lt_trichotomy front.length front'.length with hbefore | hsame | hbehind
  · refine .inr ?_
    have hend := ht.length_le ht' hbefore
    have hne : line.length ≠ front'.length + after.length := by
      intro heq
      -- the other target follows this one, so it is not found
      refine (found_iff.1 h').2 front h ⟨path, c, after, ht, ?_⟩
      obtain ⟨init, hinit⟩ := ht.exists_init
      obtain ⟨rest, hrest⟩ := ht'.exists_dot
      have hsum := congrArg List.length hinit
      rw [List.length_append] at hsum
      rw [List.append_assoc] at hrest
      have hfront : init = front' := List.append_inj_left (hinit.symm.trans hrest) (by omega)
      rw [hinit, hfront]
    omega
  · exact .inl (ht'.eq_of_length ht hsame.symm)
  · have hend := ht'.length_le ht hbehind
    omega

/-! ## The scan -/

/-- A scan that has got as far as `seen` has not stopped inside a target that it finds. -/
def Fresh (line seen : List Char) : Prop :=
  ∀ front path c after, Found line front → Target line front path (c :: after) →
    front.length - 1 < seen.length → line.length ≤ seen.length + after.length

/-- A scan that looks for a target at a place finds the one that is there. -/
theorem Fresh.found {seen : List Char} (h : Fresh line seen)
    (ht : Target line front path (c :: after)) (hlength : front.length - 1 = seen.length) :
    Found line front := by
  refine found_iff.2 ⟨⟨path, c, after, ht⟩, fun front' hfound hfollows => ?_⟩
  have hlt := hfollows.length_lt
  obtain ⟨path', c', after', ht', hline⟩ := hfollows
  have hlt' := ht'.length_lt
  have hsum := congrArg List.length hline
  rw [List.length_append] at hsum
  rw [List.length_cons] at hlt'
  have hend := h front' path' c' after' hfound ht' (by omega)
  omega

/-- **What a scan finds from a place on** are the paths of the targets that are found there. -/
theorem mem_assignmentsFrom_iff {seen : List Char} (hline : line = seen ++ s)
    (hfresh : Fresh line seen) :
    path ∈ assignmentsFrom seen.isEmpty s ↔ ∃ front c after, Target line front path (c :: after) ∧
      Found line front ∧ seen.length ≤ front.length - 1 := by
  induction hn : s.length using Nat.strong_induction_on generalizing s seen with
  | _ n ih =>
  subst hn
  have hlength := congrArg List.length hline
  rw [List.length_append] at hlength
  rw [assignmentsFrom.eq_def]
  split
  next path' after hhere =>
    obtain ⟨front, c, hfront, ht⟩ := (assignmentHere?_eq_some_iff hline).1 hhere
    have hfound := hfresh.found ht hfront
    have hshorter := assignmentHere?_length hhere
    obtain ⟨seen', hline'⟩ := ht.exists_init
    have hlength' := congrArg List.length hline'
    rw [List.length_append] at hlength'
    have hnext : seen'.isEmpty = false := by
      rw [List.isEmpty_eq_false_iff, ← List.length_pos_iff]
      omega
    have hfresh' : Fresh line seen' := by
      intro front₁ path₁ c₁ after₁ hfound₁ ht₁ hlt
      rcases Nat.lt_or_ge (front₁.length - 1) seen.length with hbefore | hbehind
      · have hend := hfresh front₁ path₁ c₁ after₁ hfound₁ ht₁ hbefore
        omega
      · rcases hfound.eq_or_le ht hfound₁ ht₁ (by omega) with rfl | hle
        · obtain ⟨-, heq⟩ := ht₁.unique ht
          cases heq
          omega
        · omega
    rw [List.mem_cons, ← hnext, ih after.length (by omega) hline' hfresh' rfl]
    constructor
    · rintro (rfl | ⟨front₁, c₁, after₁, ht₁, hfound₁, hle⟩)
      · exact ⟨front, c, after, ht, hfound, by omega⟩
      · exact ⟨front₁, c₁, after₁, ht₁, hfound₁, by omega⟩
    · rintro ⟨front₁, c₁, after₁, ht₁, hfound₁, hle⟩
      rcases hfound.eq_or_le ht hfound₁ ht₁ (by omega) with rfl | hend
      · exact .inl (ht₁.unique ht).1
      · exact .inr ⟨front₁, c₁, after₁, ht₁, hfound₁, by omega⟩
  next hhere =>
    -- no target is at this place
    have hnone : ∀ front path c after, Target line front path (c :: after) →
        front.length - 1 ≠ seen.length := by
      intro front path c after ht hfront
      rw [(assignmentHere?_eq_some_iff hline).2 ⟨front, c, hfront, ht⟩] at hhere
      cases hhere
    cases s with
    | nil =>
      simp only [List.not_mem_nil, false_iff]
      rintro ⟨front, c, after, ht, -, hseen⟩
      have hlt := ht.length_lt
      rw [List.length_nil] at hlength
      omega
    | cons d s =>
      have hnext : (seen ++ [d]).isEmpty = false := by simp
      have hfresh' : Fresh line (seen ++ [d]) := by
        intro front path c after hfound ht hlt
        have hne := hnone front path c after ht
        rw [List.length_append, List.length_singleton] at hlt ⊢
        have hend := hfresh front path c after hfound ht (by omega)
        omega
      rw [← hnext, ih s.length (by simp) (by simpa using hline) hfresh' rfl]
      refine exists_congr fun front => exists_congr fun c => exists_congr fun after =>
        and_congr_right fun ht => and_congr_right fun _ => ?_
      have hne := hnone front path c after ht
      rw [List.length_append, List.length_singleton]
      omega

/-- **Just the paths of the targets that are found are assigned to.** -/
theorem mem_assignments_iff :
    path ∈ assignments line ↔
      ∃ front c after, Target line front path (c :: after) ∧ Found line front := by
  have hfresh : Fresh line [] := fun _ _ _ _ _ _ hlt => absurd hlt (Nat.not_lt_zero _)
  have hall : path ∈ assignmentsFrom ([] : List Char).isEmpty line ↔ _ :=
    mem_assignmentsFrom_iff rfl hfresh
  simpa [assignments] using hall

theorem isPath_of_mem_assignedPaths {program : List Char} (h : path ∈ assignedPaths program) :
    IsPath path := by
  obtain ⟨line, -, hassigned⟩ := List.mem_flatMap.1 h
  obtain ⟨front, c, after, htarget, -⟩ := mem_assignments_iff.1 hassigned
  exact htarget.isPath

end RemapSynth.Policy
