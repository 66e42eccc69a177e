/-
Which assignments are reported. A path collides with reserved names in one of
three ways (`Collides`); a path that collides is reported when a scan of some
line finds it assigned to, and nothing else is reported (`reported_iff`). An
assignment that the scan passes over is not reported at all: there are lines
with an assignment to a reserved name of which nothing is said
(`unreported_targets`).
-/
import RemapSynth.Policy.Check
import RemapSynth.Proofs.Policy.Assignment

namespace RemapSynth.Policy

variable {reserved names : List String} {name : String} {path : List (List Char)} {p : Policy}
  {program : String}

/-! ## The reserved set -/

theorem mem_insertName {n : String} : n ∈ insertName name names ↔ n = name ∨ n ∈ names := by
  induction names with
  | nil => simp [insertName]
  | cons m names ih =>
    rw [insertName]
    split
    next heq => simp [heq]
    next =>
      split
      next => simp
      next => simp only [List.mem_cons, ih, or_left_comm]

theorem mem_foldl_insertName {n : String} (set : List String) :
    n ∈ names.foldl (fun set name => insertName name set) set ↔ n ∈ set ∨ n ∈ names := by
  induction names generalizing set with
  | nil => simp
  | cons m names ih =>
    rw [List.foldl_cons, ih, mem_insertName, List.mem_cons]
    tauto

/-- The reserved names are those of the list, trimmed, that are not blank. -/
theorem mem_reservedSet {n : String} :
    n ∈ reservedSet names ↔ (∃ m ∈ names, Text.trim m = n) ∧ n.isEmpty = false := by
  rw [reservedSet, mem_foldl_insertName, List.mem_filter, List.mem_map]
  simp

/-! ## Collisions -/

/-- A path collides with reserved names. -/
inductive Collides (reserved : List String) (path : List (List Char)) : Prop
  /-- It is one of them. -/
  | exact (h : pathText path ∈ reserved)
  /-- It is a single segment, with which one of them begins that has more. -/
  | parent {name : String} (hname : name ∈ reserved) (hdot : '.' ∈ name.toList)
      (hlength : path.length = 1) (h : path.head? = (nameSegments name).head?)
  /-- It begins with all segments of one that has more than one. -/
  | inside {name : String} (hname : name ∈ reserved) (hdot : '.' ∈ name.toList)
      (h : nameSegments name <+: path)

theorem collisionWith?_eq_none_iff :
    collisionWith? path name = none ↔
      ¬ (path.length = 1 ∧ path.head? = (nameSegments name).head?) ∧
        ¬ nameSegments name <+: path := by
  rw [collisionWith?, ← List.isPrefixOf_iff_prefix]
  split
  next h => simp [h]
  next h =>
    split
    next hstart => simp [hstart]
    next hstart => simp [h, hstart]

/-- A collision is looked for wherever there can be one. -/
theorem collision?_isSome_iff :
    (collision? reserved path).isSome = true ↔ Collides reserved path := by
  rw [collision?]
  by_cases hexact : pathText path ∈ reserved
  · rw [if_pos hexact]
    exact ⟨fun _ => .exact hexact, fun _ => rfl⟩
  rw [if_neg hexact, ← not_iff_not, Option.not_isSome_iff_eq_none, List.findSome?_eq_none_iff]
  constructor
  · intro h hcollides
    cases hcollides with
    | exact h' => exact hexact h'
    | parent hname hdot hlength hhead =>
      exact (collisionWith?_eq_none_iff.1 (h _ (by simp [hname, hdot]))).1 ⟨hlength, hhead⟩
    | inside hname hdot hstart =>
      exact (collisionWith?_eq_none_iff.1 (h _ (by simp [hname, hdot]))).2 hstart
  · intro h name hname
    obtain ⟨hname, hdot⟩ := List.mem_filter.1 hname
    rw [List.contains_iff_mem] at hdot
    exact collisionWith?_eq_none_iff.2
      ⟨fun hparent => h (.parent hname hdot hparent.1 hparent.2),
        fun hstart => h (.inside hname hdot hstart)⟩

/-! ## Reports -/

theorem mem_firstOccurrences {α : Type} [BEq α] [LawfulBEq α] {a : α} {seen rest : List α} :
    a ∈ firstOccurrences seen rest ↔ a ∈ rest ∧ a ∉ seen := by
  induction rest generalizing seen with
  | nil => simp [firstOccurrences]
  | cons b rest ih =>
    rw [firstOccurrences]
    by_cases hb : b ∈ seen
    · rw [if_pos (List.contains_iff_mem.2 hb), ih, List.mem_cons]
      constructor
      · rintro ⟨hrest, hseen⟩
        exact ⟨.inr hrest, hseen⟩
      · rintro ⟨rfl | hrest, hseen⟩
        · exact absurd hb hseen
        · exact ⟨hrest, hseen⟩
    · rw [if_neg (by simpa using hb), List.mem_cons, ih, List.mem_cons, List.mem_cons]
      by_cases hab : a = b
      · simp [hab, hb]
      · simp [hab]

/-- A conflict is a path that is assigned to, with how it collides. -/
theorem mem_findConflicts_iff {conflict : Conflict} :
    conflict ∈ p.findConflicts program ↔ ∃ path ∈ assignedPaths program.toList,
      collision? p.reserved path = some conflict.collision ∧ conflict.path = pathText path := by
  rw [findConflicts, List.mem_filterMap]
  refine exists_congr fun path => ?_
  rw [mem_firstOccurrences, Option.map_eq_some_iff]
  obtain ⟨text, collision⟩ := conflict
  simp only [List.not_mem_nil, not_false_eq_true, and_true]
  refine and_congr_right fun _ => ⟨?_, ?_⟩
  · rintro ⟨_, hcollision, heq⟩
    cases heq
    exact ⟨hcollision, rfl⟩
  · rintro ⟨hcollision, rfl⟩
    exact ⟨_, hcollision, rfl⟩

/-- Whether a program is said to assign to `text`, which it must not. -/
def Reported (p : Policy) (program text : String) : Prop :=
  ∃ conflict ∈ p.findConflicts program, conflict.path = text

theorem reported_iff {text : String} :
    p.Reported program text ↔ ∃ line ∈ codeLines program.toList, ∃ front path c after,
      Target line front path (c :: after) ∧ Found line front ∧ Collides p.reserved path ∧
        text = pathText path := by
  constructor
  · rintro ⟨conflict, hconflict, rfl⟩
    obtain ⟨path, hpath, hcollision, htext⟩ := mem_findConflicts_iff.1 hconflict
    obtain ⟨line, hline, hassigned⟩ := List.mem_flatMap.1 hpath
    obtain ⟨front, c, after, htarget, hfound⟩ := mem_assignments_iff.1 hassigned
    have hcollides : Collides p.reserved path := collision?_isSome_iff.1 (by rw [hcollision]; rfl)
    exact ⟨line, hline, front, path, c, after, htarget, hfound, hcollides, htext⟩
  · rintro ⟨line, hline, front, path, c, after, htarget, hfound, hcollides, rfl⟩
    obtain ⟨collision, hcollision⟩ := Option.isSome_iff_exists.1 (collision?_isSome_iff.2 hcollides)
    have hassigned : path ∈ assignments line :=
      mem_assignments_iff.2 ⟨front, c, after, htarget, hfound⟩
    have hpath : path ∈ assignedPaths program.toList :=
      List.mem_flatMap.2 ⟨line, hline, hassigned⟩
    exact ⟨⟨pathText path, collision⟩, mem_findConflicts_iff.2 ⟨path, hpath, hcollision, rfl⟩, rfl⟩

/-- **Which assignments are reported.** What is reported are the paths that collide and that the
scan of some line finds. So an assignment to a path that collides is reported if its sign does not
end the line and its dot does not stand right behind the character behind the sign of another. -/
theorem targets_reported (p : Policy) (program : String) :
    (∀ text, p.Reported program text ↔ ∃ line ∈ codeLines program.toList, ∃ front path c after,
      Target line front path (c :: after) ∧ Found line front ∧ Collides p.reserved path ∧
        text = pathText path) ∧
    ∀ line ∈ codeLines program.toList, ∀ front path behind, Target line front path behind →
      Collides p.reserved path → behind ≠ [] → (∀ front', ¬ Follows line front front') →
        p.Reported program (pathText path) := by
  refine ⟨fun _ => reported_iff, fun line hline front path behind ht hcollides hbehind hfree => ?_⟩
  obtain ⟨c, after, rfl⟩ := List.exists_cons_of_ne_nil hbehind
  have hfound : Found line front := found_iff.2 ⟨⟨path, c, after, ht⟩, fun front' _ => hfree front'⟩
  exact reported_iff.2 ⟨line, hline, front, path, c, after, ht, hfound, hcollides, rfl⟩

/-- A policy with two reserved names. -/
def guarded : Policy := .ofLists [] [] ["source", " host "]

theorem collides_host : Collides guarded.reserved ["host".toList] := .exact (by decide)

theorem collides_source : Collides guarded.reserved ["source".toList] := .exact (by decide)

/-- A program that assigns to both reserved names in one line. -/
def assigning : String := ".source = 1; .host = 2"

theorem target_source :
    Target assigning.toList [] ["source".toList] " 1; .host = 2".toList where
  begins := nofun
  isPath := isPath_singleton (by decide) (by decide)
  single := by decide
  written := ⟨[' '], List.forall_mem_singleton.2 rfl, rfl⟩

theorem target_host :
    Target assigning.toList ".source = 1; ".toList ["host".toList] " 2".toList where
  begins := by rintro _ ⟨⟩; rfl
  isPath := isPath_singleton (by decide) (by decide)
  single := by decide
  written := ⟨[' '], List.forall_mem_singleton.2 rfl, rfl⟩

/-- Both are reported: a semicolon stands between the first value and the second dot. -/
theorem targets_reported_host :
    Target assigning.toList [] ["source".toList] " 1; .host = 2".toList ∧
    Target assigning.toList ".source = 1; ".toList ["host".toList] " 2".toList ∧
    Collides guarded.reserved ["source".toList] ∧ Collides guarded.reserved ["host".toList] ∧
    guarded.Reported assigning "source" ∧ guarded.Reported assigning "host" := by
  have hline : assigning.toList ∈ codeLines assigning.toList := by decide
  have hsource (front' : List Char) : ¬ Follows assigning.toList [] front' :=
    fun hfollows => absurd hfollows.length_lt (Nat.not_lt_zero _)
  have hhost (front' : List Char) : ¬ Follows assigning.toList ".source = 1; ".toList front' :=
    not_follows ".source = 1".toList (show ';' ≠ '=' by decide) front'
  have hreported := (targets_reported guarded assigning).2 _ hline
  exact ⟨target_source, target_host, collides_source, collides_host,
    hreported _ _ _ target_source collides_source (by decide) hsource,
    hreported _ _ _ target_host collides_host (by decide) hhost⟩

/-- A program that assigns to both reserved names: in one line the sign comes last, in the other
the dot stands right behind the blank behind another sign. -/
def overlooked : String := ".host =\n  1\n.x = .source = 2"

/-- Assignments to reserved names of which nothing is reported. -/
theorem unreported_targets :
    ".host =".toList ∈ codeLines overlooked.toList ∧
    Target ".host =".toList [] ["host".toList] [] ∧ Collides guarded.reserved ["host".toList] ∧
    ".x = .source = 2".toList ∈ codeLines overlooked.toList ∧
    Target ".x = .source = 2".toList ".x = ".toList ["source".toList] " 2".toList ∧
    Collides guarded.reserved ["source".toList] ∧ guarded.findConflicts overlooked = [] := by
  have hhost : Target ".host =".toList [] ["host".toList] [] :=
    ⟨nofun, isPath_singleton (by decide) (by decide), by decide, [' '],
      List.forall_mem_singleton.2 rfl, rfl⟩
  have hsource : Target ".x = .source = 2".toList ".x = ".toList ["source".toList] " 2".toList :=
    ⟨by rintro _ ⟨⟩; rfl, isPath_singleton (by decide) (by decide), by decide, [' '],
      List.forall_mem_singleton.2 rfl, rfl⟩
  exact ⟨by decide, hhost, collides_host, by decide, hsource, collides_source, by decide +kernel⟩

end RemapSynth.Policy
