/-
What is reported of a program's assignments. Each path that collides is
reported once, in the order in which the program first assigns to them, and of
the configuration only the set of reserved names matters: the set is kept as an
increasing list, and an increasing list is told by its members. So a configured
list may be put in another order, and may hold names twice, blank entries and
blanks around names (`Restated`), and more names only bring more reports
(`reports_of_reserved`).
-/
import Mathlib.Data.List.Sort
import Mathlib.Data.String.Basic
import Mathlib.Logic.Relation
import RemapSynth.Proofs.Policy.Conflict
import RemapSynth.Proofs.Text.Trim

namespace RemapSynth.Policy

variable {names names' : List String} {name text : String} {p : Policy} {program : String}
  {path : List (List Char)}

/-! ## The reserved set -/

theorem pairwise_insertName (h : names.Pairwise (· < ·)) :
    (insertName name names).Pairwise (· < ·) := by
  induction names with
  | nil => simp [insertName]
  | cons n names ih =>
    obtain ⟨hn, hnames⟩ := List.pairwise_cons.1 h
    rw [insertName]
    split
    next => exact h
    next hne =>
      split
      next hlt =>
        exact List.pairwise_cons.2
          ⟨List.forall_mem_cons.2 ⟨hlt, fun m hm => hlt.trans (hn m hm)⟩, h⟩
      next hge =>
        have hgt : n < name := lt_of_le_of_ne (not_lt.1 hge) (Ne.symm hne)
        refine List.pairwise_cons.2 ⟨fun m hm => ?_, ih hnames⟩
        rcases mem_insertName.1 hm with rfl | hm
        · exact hgt
        · exact hn m hm

theorem pairwise_reservedSet (names : List String) : (reservedSet names).Pairwise (· < ·) := by
  have hall (names set : List String) (h : set.Pairwise (· < ·)) :
      (names.foldl (fun set name => insertName name set) set).Pairwise (· < ·) := by
    induction names generalizing set with
    | nil => exact h
    | cons n names ih => exact ih _ (pairwise_insertName h)
  exact hall _ [] .nil

/-- The reserved set is told by its members. -/
theorem reservedSet_congr (h : ∀ n, n ∈ reservedSet names ↔ n ∈ reservedSet names') :
    reservedSet names = reservedSet names' :=
  (pairwise_reservedSet names).eq_of_mem_iff (pairwise_reservedSet names') h

/-- Writing a list of reserved names in another way. -/
inductive Restated : List String → List String → Prop
  /-- The names come in another order. -/
  | permuted {names names' : List String} (h : names.Perm names') : Restated names names'
  /-- A name is there once more. -/
  | repeated {name : String} {names : List String} (h : name ∈ names) :
    Restated names (name :: names)
  /-- There is one more entry, which is blank. -/
  | blank {name : String} (names : List String) (h : Text.isBlankText name = true) :
    Restated names (name :: names)
  /-- There are blanks around an entry. -/
  | padded (before after : List String) (name : String) {front behind : List Char}
    (hfront : ∀ c ∈ front, Text.isBlank c = true) (hbehind : ∀ c ∈ behind, Text.isBlank c = true) :
    Restated (before ++ name :: after)
      (before ++ .ofList (front ++ name.toList ++ behind) :: after)

theorem isEmpty_trim_of_isBlankText (h : Text.isBlankText name = true) :
    (Text.trim name).isEmpty = true := by
  have hblank : ∀ c ∈ name.toList, Text.isBlank c = true := List.all_eq_true.1 h
  have htrim : Chars.trim (name.toList ++ []) = Chars.trim [] :=
    Chars.trim_blank_append hblank []
  rw [List.append_nil] at htrim
  rw [Text.trim, htrim]
  rfl

theorem trim_padded {front behind : List Char} (hfront : ∀ c ∈ front, Text.isBlank c = true)
    (hbehind : ∀ c ∈ behind, Text.isBlank c = true) (name : String) :
    Text.trim (.ofList (front ++ name.toList ++ behind)) = Text.trim name := by
  rw [Text.trim, String.toList_ofList, Chars.trim_append_blank hbehind,
    Chars.trim_blank_append hfront, ← Text.trim]

theorem Restated.mem_reservedSet_iff (h : Restated names names') {n : String} :
    n ∈ reservedSet names ↔ n ∈ reservedSet names' := by
  rw [mem_reservedSet, mem_reservedSet]
  refine and_congr_left fun hn => ?_
  cases h with
  | permuted h => exact exists_congr fun m => and_congr_left fun _ => h.mem_iff
  | @repeated name _ h =>
    rw [List.exists_mem_cons_iff]
    exact ⟨.inr, fun hm => hm.elim (fun hname => ⟨name, h, hname⟩) id⟩
  | @blank name _ h =>
    have hne : Text.trim name ≠ n := by
      rintro rfl
      rw [isEmpty_trim_of_isBlankText h] at hn
      cases hn
    rw [List.exists_mem_cons_iff]
    exact ⟨.inr, fun hm => hm.resolve_left hne⟩
  | padded before after name hfront hbehind =>
    simp only [List.mem_append, List.mem_cons, or_and_right, exists_or, exists_eq_left,
      trim_padded hfront hbehind]

theorem reservedSet_eq_of_restated (h : Relation.EqvGen Restated names names') :
    reservedSet names = reservedSet names' := by
  induction h with
  | rel names names' h => exact reservedSet_congr fun _ => h.mem_reservedSet_iff
  | refl names => rfl
  | symm names names' _ ih => exact ih.symm
  | trans names names' names'' _ _ ih ih' => exact ih.trans ih'

theorem Collides.mono {reserved reserved' : List String} (h : Collides reserved path)
    (hsub : ∀ n ∈ reserved, n ∈ reserved') : Collides reserved' path := by
  cases h with
  | exact h => exact .exact (hsub _ h)
  | parent hname hdot hlength h => exact .parent (hsub _ hname) hdot hlength h
  | inside hname hdot h => exact .inside (hsub _ hname) hdot h

/-! ## First occurrences -/

/-- What is kept of a list comes in the order of first occurrences. -/
theorem pairwise_firstOccurrences {α : Type} [BEq α] [LawfulBEq α] {front seen rest : List α}
    (h : front ⊆ seen) : (firstOccurrences seen rest).Pairwise fun a b =>
      (front ++ rest).idxOf a < (front ++ rest).idxOf b := by
  induction rest generalizing front seen with
  | nil => simp [firstOccurrences]
  | cons a rest ih =>
    have hwhole : front ++ a :: rest = (front ++ [a]) ++ rest := by simp
    rw [firstOccurrences]
    split
    next hseen =>
      have hfront : front ++ [a] ⊆ seen := by
        simpa [h] using hseen
      rw [hwhole]
      exact ih hfront
    next hseen =>
      have hnew : a ∉ front := fun ha => hseen (by simpa using h ha)
      have hfront : front ++ [a] ⊆ a :: seen := by
        simpa using List.subset_cons_of_subset a h
      refine List.pairwise_cons.2 ⟨fun b hb => ?_, hwhole ▸ ih hfront⟩
      have hlater : b ∉ front ++ [a] := fun hfound =>
        (mem_firstOccurrences.1 hb).2 (hfront hfound)
      have hsum : (front ++ [a]).length = front.length + 1 := List.length_append
      rw [hwhole, List.idxOf_append_of_notMem hlater, ← hwhole, List.idxOf_append_of_notMem hnew,
        List.idxOf_cons_self]
      omega

/-- Putting names to things that have different names changes nothing about which come first. -/
theorem map_firstOccurrences {α β : Type} [BEq α] [LawfulBEq α] [BEq β] [LawfulBEq β] {f : α → β}
    {seen rest : List α} (h : ∀ a ∈ rest, ∀ b ∈ seen ++ rest, f a = f b → a = b) :
    (firstOccurrences seen rest).map f = firstOccurrences (seen.map f) (rest.map f) := by
  induction rest generalizing seen with
  | nil => rfl
  | cons a rest ih =>
    have hmem : f a ∈ seen.map f ↔ a ∈ seen := by
      refine ⟨fun ha => ?_, fun ha => List.mem_map_of_mem ha⟩
      obtain ⟨b, hb, heq⟩ := List.mem_map.1 ha
      rwa [h a List.mem_cons_self b (List.mem_append_left _ hb) heq.symm]
    rw [List.map_cons, firstOccurrences, firstOccurrences]
    by_cases ha : a ∈ seen
    · rw [if_pos (by simpa using ha), if_pos (by simpa using hmem.2 ha)]
      exact ih fun b hb c hc => h b (List.mem_cons_of_mem a hb) c (by simp at hc ⊢; tauto)
    · have hrest : (firstOccurrences (a :: seen) rest).map f = _ :=
        ih fun b hb c hc => h b (List.mem_cons_of_mem a hb) c (by simp at hc ⊢; tauto)
      rw [if_neg (by simpa using ha), if_neg (by simpa using mt hmem.1 ha), List.map_cons, hrest,
        List.map_cons]

/-! ## Reports -/

/-- The paths that a program is said to assign to, which it must not. -/
def reports (p : Policy) (program : String) : List String :=
  (p.findConflicts program).map (·.path)

/-- The paths that the scan of a program finds assigned to, with repetitions. -/
def captured (program : String) : List String := (assignedPaths program.toList).map pathText

/-- A path is written in its segments. -/
theorem nameSegments_pathText (h : IsPath path) : nameSegments (pathText path) = path := by
  have hdot : ∀ name ∈ path, '.' ∉ name := fun name hname hmem =>
    absurd (h.isWord name hname '.' hmem) (by decide)
  rw [nameSegments, pathText, String.toList_ofList, Chars.splitAt_joinWith h.ne_nil hdot]

/-- Whether a text is that of a path that collides. -/
def isReserved (p : Policy) (text : String) : Bool :=
  (collision? p.reserved (nameSegments text)).isSome

theorem isReserved_iff : p.isReserved text = true ↔ Collides p.reserved (nameSegments text) :=
  collision?_isSome_iff

theorem reports_eq_filter :
    p.reports program = (firstOccurrences [] (captured program)).filter p.isReserved := by
  have hpath : ∀ path ∈ assignedPaths program.toList, nameSegments (pathText path) = path :=
    fun path h => nameSegments_pathText (isPath_of_mem_assignedPaths h)
  have hfirst : (firstOccurrences [] (assignedPaths program.toList)).map pathText =
      firstOccurrences ([].map pathText) (captured program) := by
    refine map_firstOccurrences fun path h path' h' heq => ?_
    rw [← hpath path h, heq, hpath path' h']
  rw [List.map_nil] at hfirst
  rw [← hfirst, List.filter_map, reports, findConflicts, List.map_filterMap,
    ← List.filterMap_eq_map, List.filterMap_filter]
  refine List.filterMap_congr ?_
  intro path h
  have hsame : p.isReserved (pathText path) = (collision? p.reserved path).isSome := by
    have hassigned : path ∈ assignedPaths program.toList := (mem_firstOccurrences.1 h).1
    rw [isReserved, hpath path hassigned]
  rw [Function.comp_apply, hsame]
  cases collision? p.reserved path <;> rfl

/-- Just the captured paths that collide are reported. -/
theorem mem_reports_iff :
    text ∈ p.reports program ↔
      text ∈ captured program ∧ Collides p.reserved (nameSegments text) := by
  rw [reports_eq_filter, List.mem_filter, mem_firstOccurrences, isReserved_iff]
  simp

/-- Paths are reported in the order in which they are first assigned to. -/
theorem pairwise_reports : (p.reports program).Pairwise fun text text' =>
    (captured program).idxOf text < (captured program).idxOf text' := by
  rw [reports_eq_filter]
  exact (pairwise_firstOccurrences (List.nil_subset [])).filter _

/-- What is reported stands in the program. -/
theorem exists_written_of_mem_reports (h : text ∈ p.reports program) :
    ∃ line ∈ codeLines program.toList, ∃ front gap behind,
      (∀ c ∈ gap, Text.isBlank c = true) ∧
        line = front ++ '.' :: (text.toList ++ gap ++ '=' :: behind) := by
  have hreported : p.Reported program text := by simpa [reports, Reported] using h
  obtain ⟨line, hline, front, path, c, after, htarget, -, -, rfl⟩ := reported_iff.1 hreported
  obtain ⟨gap, hgap, hwritten⟩ := htarget.written
  refine ⟨line, hline, front, gap, c :: after, hgap, ?_⟩
  rw [pathText, String.toList_ofList]
  exact hwritten

/-- With more reserved names no report is lost. -/
theorem reports_sublist {rejected preferred : List String} (h : names ⊆ names') :
    ((ofLists rejected preferred names).reports program).Sublist
      ((ofLists rejected preferred names').reports program) := by
  have hmore : ∀ n ∈ reservedSet names, n ∈ reservedSet names' := by
    intro n hn
    obtain ⟨⟨m, hm, heq⟩, hne⟩ := mem_reservedSet.1 hn
    exact mem_reservedSet.2 ⟨⟨m, h hm, heq⟩, hne⟩
  rw [reports_eq_filter, reports_eq_filter]
  refine List.monotone_filter_right _ fun text htext => ?_
  exact isReserved_iff.2 ((isReserved_iff.1 htext).mono hmore)

/-- **Reports hang on the reserved set.** No path is reported twice, and they come in the order in
which the program first assigns to them. Each stands in the code of some line behind a dot, with
blanks and an equals sign behind it. Of the paths that the scan captures just those are reported
that collide with a reserved name, which is a configured one, trimmed and not blank. Writing the
configured list in another way changes nothing, and adding to it loses no report. -/
theorem reports_of_reserved (rejected preferred names : List String) (program : String) :
    let p := ofLists rejected preferred names
    (p.reports program).Nodup ∧
    ((p.reports program).Pairwise fun text text' =>
      (captured program).idxOf text < (captured program).idxOf text') ∧
    (∀ text ∈ p.reports program, ∃ line ∈ codeLines program.toList, ∃ front gap behind,
      (∀ c ∈ gap, Text.isBlank c = true) ∧
        line = front ++ '.' :: (text.toList ++ gap ++ '=' :: behind)) ∧
    (∀ text, text ∈ p.reports program ↔
      text ∈ captured program ∧ Collides p.reserved (nameSegments text)) ∧
    (∀ name, name ∈ p.reserved ↔
      (∃ entry ∈ names, Text.trim entry = name) ∧ name.isEmpty = false) ∧
    (∀ names', Relation.EqvGen Restated names names' →
      (ofLists rejected preferred names').findConflicts program = p.findConflicts program) ∧
    ∀ names', names ⊆ names' →
      (p.reports program).Sublist ((ofLists rejected preferred names').reports program) := by
  intro p
  have hordered : (p.reports program).Pairwise fun text text' =>
      (captured program).idxOf text < (captured program).idxOf text' := pairwise_reports
  refine ⟨?_, hordered, fun _ => exists_written_of_mem_reports, fun _ => mem_reports_iff,
    fun _ => mem_reservedSet, fun names' hnames => ?_, fun _ => reports_sublist⟩
  · refine List.Pairwise.imp ?_ hordered
    intro text text' hlt heq
    exact Nat.ne_of_lt hlt (heq ▸ rfl)
  · have hsame : reservedSet names = reservedSet names' := reservedSet_eq_of_restated hnames
    have hpolicy : (ofLists rejected preferred names').reserved = p.reserved := hsame.symm
    rw [findConflicts, findConflicts, hpolicy]

/-- A program that assigns to a parent of a reserved name twice, to another reserved name, and
inside a reserved name. -/
def intruding : String := ".tags = {}\n.source = 1\n.tags = .x\n.tags.host.name = .y == 1"

theorem reports_of_reserved_intruding :
    let p := ofLists [] [] ["source", "tags.host"]
    let p' := ofLists [] [] ["tags.host", " source\t", "  "]
    p.reports intruding = ["tags", "source", "tags.host.name"] ∧
    captured intruding = ["tags", "source", "tags", "tags.host.name"] ∧
    (∃ line ∈ codeLines intruding.toList, ∃ front gap behind,
      (∀ c ∈ gap, Text.isBlank c = true) ∧
        line = front ++ '.' :: ("tags.host.name".toList ++ gap ++ '=' :: behind)) ∧
    p'.findConflicts intruding = p.findConflicts intruding ∧
    (p.reports intruding).Sublist
      ((ofLists [] [] ["x", "source", "tags.host"]).reports intruding) := by
  intro p p'
  have hreports : p.reports intruding = ["tags", "source", "tags.host.name"] := by decide +kernel
  obtain ⟨-, -, hwritten, -, -, hrestated, hmore⟩ :=
    reports_of_reserved [] [] ["source", "tags.host"] intruding
  have hblank : ∀ c ∈ ['\t'], Text.isBlank c = true := List.forall_mem_singleton.2 rfl
  have hspace : ∀ c ∈ [' '], Text.isBlank c = true := List.forall_mem_singleton.2 rfl
  have hpadded : Restated ["source", "tags.host"] [" source\t", "tags.host"] :=
    .padded [] ["tags.host"] "source" hspace hblank
  have hnames : Relation.EqvGen Restated ["source", "tags.host"]
      ["tags.host", " source\t", "  "] := by
    refine .trans _ _ _ (.rel _ _ hpadded) (.trans _ ["  ", " source\t", "tags.host"] _ ?_ ?_)
    · exact .rel _ _ (.blank _ (by decide))
    · exact .rel _ _ (.permuted (by decide))
  refine ⟨hreports, by decide +kernel, hwritten _ ?_, hrestated _ hnames, hmore _ (by simp)⟩
  rw [show (ofLists [] [] ["source", "tags.host"]).reports intruding = _ from hreports]
  simp

end RemapSynth.Policy
