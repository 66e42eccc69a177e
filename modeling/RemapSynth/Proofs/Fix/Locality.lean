/-
Repairing goes line by line. A pass runs over the whole program, and all its
lines share the passes and the end of them; but a rule sees one line only, so
what becomes of a line is what the rules make of that line alone (`course`).
A line that is done early is settled, and further passes leave it as it is;
so it does not matter that the passes go on until the last line is done.

The program that results is what is left of its lines, in their order
(`passes_eq`). No rule puts a line feed into a line (`Tame.oneLine`), so the
lines of that program, cut again, are the same lines.
-/
import Mathlib.Data.List.Perm.Basic
import Mathlib.Logic.Function.Iterate
import RemapSynth.Proofs.Fix.Passes
import RemapSynth.Proofs.Fix.Store

namespace RemapSynth.Fix

open Chars

/-- What became of one line: what is left of it, unless it was dropped, and the rules that were
applied to it, one after the other. -/
structure Course where
  left : Option (List Char)
  applied : List String
  deriving DecidableEq

/-- The course of a line by itself, in at most `n` rounds. A comment is left as it is. To any other
line the first rule is applied that does anything to it, as long as there is one. -/
def course (rules : List Rule) : Nat → List Char → Course
  | 0, line => ⟨some line, []⟩
  | n + 1, line =>
    if isComment line then ⟨some line, []⟩
    else
      match rules.find? fun rule => rule.apply line ≠ .unchanged with
      | none => ⟨some line, []⟩
      | some rule =>
        match rule.apply line with
        | .unchanged => ⟨some line, []⟩
        | .drop => ⟨none, [rule.name]⟩
        | .replace new =>
          let rest := course rules n new
          ⟨rest.left, rule.name :: rest.applied⟩

/-- What is left of some lines, each taken by itself. -/
def leftOf (rules : List Rule) (n : Nat) (lines : List (List Char)) : List (List Char) :=
  lines.filterMap fun line => (course rules n line).left

/-- The rules applied to some lines, round by round, and in each round line by line. -/
def appliedTo (rules : List Rule) (n : Nat) (lines : List (List Char)) : List String :=
  (List.range n).flatMap fun k => lines.filterMap fun line => (course rules n line).applied[k]?

variable {rules : List Rule} {line : List Char} {lines : List (List Char)}

/-! ## One line -/

theorem firstEdit?_eq (rules : List Rule) (line : List Char) :
    firstEdit? rules line =
      (rules.find? fun rule => rule.apply line ≠ .unchanged).map fun rule =>
        (rule.name, rule.apply line) := by
  induction rules with
  | nil => rfl
  | cons rule rules ih =>
    rw [firstEdit?, List.find?_cons]
    cases happly : rule.apply line with
    | unchanged => simpa [happly] using ih
    | replace new => simp [happly]
    | drop => simp [happly]

/-- A pass makes of a line what one round makes of it. -/
theorem course_succ (rules : List Rule) (n : Nat) (line : List Char) :
    passLine rules line = ([line], []) ∧ course rules (n + 1) line = ⟨some line, []⟩ ∨
    (∃ name, passLine rules line = ([], [name]) ∧ course rules (n + 1) line = ⟨none, [name]⟩) ∨
    ∃ name new, passLine rules line = ([new], [name]) ∧
      course rules (n + 1) line = ⟨(course rules n new).left, name :: (course rules n new).applied⟩ := by
  rw [passLine, course]
  by_cases hcomment : isComment line = true
  · simp [hcomment]
  · rw [firstEdit?_eq]
    cases hrule : rules.find? fun rule => rule.apply line ≠ .unchanged with
    | none => simp [hcomment]
    | some rule => cases happly : rule.apply line <;> simp [hcomment, happly]

theorem course_of_isSettled (h : isSettled rules line = true) (n : Nat) :
    course rules n line = ⟨some line, []⟩ := by
  cases n with
  | zero => rfl
  | succ n =>
    obtain ⟨-, hcourse⟩ | ⟨name, hdrop, -⟩ | ⟨name, new, hnew, -⟩ := course_succ rules n line
    · exact hcourse
    · simp [isSettled, hdrop] at h
    · simp [isSettled, hnew] at h

theorem course_of_isComment (h : isComment line = true) (n : Nat) :
    course rules n line = ⟨some line, []⟩ := by
  cases n with
  | zero => rfl
  | succ n => rw [course, if_pos h]

/-- What a pass leaves of a line has a course of its own, shorter by one round. -/
theorem left_succ (rules : List Rule) (n : Nat) (line : List Char) :
    (course rules (n + 1) line).left.toList = leftOf rules n (passLine rules line).1 := by
  unfold leftOf
  obtain ⟨hpass, hcourse⟩ | ⟨name, hpass, hcourse⟩ | ⟨name, new, hpass, hcourse⟩ :=
    course_succ rules n line
  · have hsettled : isSettled rules line = true := by simp [isSettled, hpass]
    simp [hpass, hcourse, course_of_isSettled hsettled]
  · simp [hpass, hcourse]
  · cases hleft : (course rules n new).left <;> simp [hpass, hcourse, hleft]

theorem applied_succ (rules : List Rule) (n : Nat) (line : List Char) :
    (course rules (n + 1) line).applied[0]?.toList = (passLine rules line).2 ∧
    ∀ k, (course rules (n + 1) line).applied[k + 1]?.toList =
      (passLine rules line).1.filterMap fun new => (course rules n new).applied[k]? := by
  obtain ⟨hpass, hcourse⟩ | ⟨name, hpass, hcourse⟩ | ⟨name, new, hpass, hcourse⟩ :=
    course_succ rules n line
  · have hsettled : isSettled rules line = true := by simp [isSettled, hpass]
    simp [hpass, hcourse, course_of_isSettled hsettled]
  · simp [hpass, hcourse]
  · refine ⟨by simp [hpass, hcourse], fun k => ?_⟩
    cases hk : (course rules n new).applied[k]? <;> simp [hpass, hcourse, hk]

theorem length_applied_le (rules : List Rule) (n : Nat) (line : List Char) :
    (course rules n line).applied.length ≤ n := by
  induction n generalizing line with
  | zero => exact Nat.le_refl 0
  | succ n ih =>
    obtain ⟨-, hcourse⟩ | ⟨name, -, hcourse⟩ | ⟨name, new, -, hcourse⟩ := course_succ rules n line
    · simp [hcourse]
    · simp [hcourse]
    · have := ih new
      simp [hcourse]
      omega

/-! ## All lines -/

theorem leftOf_append (n : Nat) (lines₁ lines₂ : List (List Char)) :
    leftOf rules n (lines₁ ++ lines₂) = leftOf rules n lines₁ ++ leftOf rules n lines₂ :=
  List.filterMap_append

theorem leftOf_cons_of_isComment (h : isComment line = true) (n : Nat)
    (lines : List (List Char)) : leftOf rules n (line :: lines) = line :: leftOf rules n lines := by
  simp [leftOf, course_of_isComment h]

theorem leftOf_succ (n : Nat) (lines : List (List Char)) :
    leftOf rules (n + 1) lines = leftOf rules n (pass rules lines).1 := by
  induction lines with
  | nil => rfl
  | cons line lines ih =>
    have hline := left_succ rules n line
    rw [pass_cons, leftOf_append, ← ih, ← hline]
    unfold leftOf
    cases hleft : (course rules (n + 1) line).left <;> simp [hleft]

theorem appliedTo_succ (n : Nat) (lines : List (List Char)) :
    appliedTo rules (n + 1) lines =
      (pass rules lines).2 ++ appliedTo rules n (pass rules lines).1 := by
  have hfirst : (lines.filterMap fun line => (course rules (n + 1) line).applied[0]?) =
      (pass rules lines).2 := by
    simp only [List.filterMap_eq_flatMap_toList, (applied_succ rules n _).1, pass,
      List.flatMap_map]
  have hlater (k : Nat) :
      (lines.filterMap fun line => (course rules (n + 1) line).applied[k + 1]?) =
        (pass rules lines).1.filterMap fun new => (course rules n new).applied[k]? := by
    rw [List.filterMap_eq_flatMap_toList]
    simp only [(applied_succ rules n _).2 k, pass, List.flatMap_map, List.filterMap_flatMap]
  unfold appliedTo
  rw [List.range_succ_eq_map, List.flatMap_cons, hfirst, List.flatMap_map]
  simp only [hlater]

/-- The passes may as well all be made: after the first idle one the others are idle too. -/
theorem passes_succ (n : Nat) (lines : List (List Char)) :
    passes rules (n + 1) lines =
      ((passes rules n (pass rules lines).1).1,
        (pass rules lines).2 ++ (passes rules n (pass rules lines).1).2) := by
  by_cases hidle : (pass rules lines).2 = []
  · rw [passes_of_idle _ hidle, pass_of_idle hidle, passes_of_idle _ hidle]
    rfl
  · exact passes_of_applied n hidle

theorem passes_eq_iterate (n : Nat) (lines : List (List Char)) :
    (passes rules n lines).1 = (fun lines => (pass rules lines).1)^[n] lines := by
  induction n generalizing lines with
  | zero => rfl
  | succ n ih => rw [passes_succ, Function.iterate_succ_apply, ih]

/-- **The passes make of a program what becomes of each line by itself.** -/
theorem passes_eq (rules : List Rule) (n : Nat) (lines : List (List Char)) :
    passes rules n lines = (leftOf rules n lines, appliedTo rules n lines) := by
  induction n generalizing lines with
  | zero => simp [passes, leftOf, appliedTo, course]
  | succ n ih => rw [passes_succ, ih, leftOf_succ, appliedTo_succ]

/-- What is left stands in the order of the lines it is left of. -/
theorem exists_kept (rules : List Rule) (n : Nat) (lines : List (List Char)) :
    ∃ kept, kept.Sublist lines ∧
      List.Forall₂ (fun line new => (course rules n line).left = some new) kept
        (leftOf rules n lines) := by
  induction lines with
  | nil => exact ⟨[], .refl [], .nil⟩
  | cons line lines ih =>
    obtain ⟨kept, hsub, hkept⟩ := ih
    cases hleft : (course rules n line).left with
    | none =>
      refine ⟨kept, hsub.cons line, ?_⟩
      simpa [leftOf, hleft] using hkept
    | some new =>
      refine ⟨line :: kept, hsub.cons_cons line, ?_⟩
      simpa [leftOf, hleft] using hkept

theorem flatMap_range_getElem? {α : Type} (l : List α) (n : Nat) :
    (List.range n).flatMap (fun k => l[k]?.toList) = l.take n := by
  induction n generalizing l with
  | zero => rfl
  | succ n ih =>
    rw [List.range_succ_eq_map, List.flatMap_cons, List.flatMap_map]
    cases l with
    | nil => simp
    | cons a l => simpa using ih l

/-- Every rule that was applied to a line is told once. -/
theorem appliedTo_perm (rules : List Rule) (n : Nat) (lines : List (List Char)) :
    (appliedTo rules n lines).Perm (lines.flatMap fun line => (course rules n line).applied) := by
  induction lines with
  | nil => simp [appliedTo]
  | cons line lines ih =>
    have hline : (List.range n).flatMap (fun k => (course rules n line).applied[k]?.toList) =
        (course rules n line).applied := by
      rw [flatMap_range_getElem?, List.take_of_length_le (length_applied_le rules n line)]
    have hsplit : appliedTo rules n (line :: lines) =
        (List.range n).flatMap fun k => (course rules n line).applied[k]?.toList ++
          lines.filterMap fun line => (course rules n line).applied[k]? := by
      unfold appliedTo
      congr 1
      funext k
      cases hk : (course rules n line).applied[k]? <;> simp [hk]
    rw [hsplit, List.flatMap_cons]
    refine (List.flatMap_append_perm _ _ _).symm.trans ?_
    rw [hline]
    exact ih.append_left _

/-! ## Whole programs -/

/-- The lines that the passes leave of some lines. -/
def linesAfter (rules : List Rule) (lines : List (List Char)) : List (List Char) :=
  (passes rules maxPasses lines).1

/-- What it means that rules are applied to a program line by line. -/
structure LineByLine (rules : List Rule) (code : List Char) : Prop where
  /-- The lines that the passes leave are what is left of each line by itself. -/
  left : linesAfter rules (splitAt '\n' code) = leftOf rules maxPasses (splitAt '\n' code)
  /-- They are also what all the passes leave: to stop at the first that applies nothing makes no
  difference to them. -/
  all_passes : linesAfter rules (splitAt '\n' code) =
    (fun lines => (pass rules lines).1)^[maxPasses] (splitAt '\n' code)
  /-- They stand in the order of the lines that they are left of. -/
  order : ∃ kept, kept.Sublist (splitAt '\n' code) ∧
    List.Forall₂ (fun line new => (course rules maxPasses line).left = some new) kept
      (linesAfter rules (splitAt '\n' code))
  /-- A comment stays as it is, between what is left of the lines before it and behind it. -/
  comment : ∀ before line after, splitAt '\n' code = before ++ line :: after →
    isComment line = true →
    linesAfter rules (splitAt '\n' code) =
      linesAfter rules before ++ line :: linesAfter rules after
  /-- Lines put together come out as they do apart. -/
  append : ∀ lines₁ lines₂,
    linesAfter rules (lines₁ ++ lines₂) = linesAfter rules lines₁ ++ linesAfter rules lines₂
  /-- The program that comes out has these lines and no others, so none was split or merged; if
  there are none it is one empty line. -/
  text : splitAt '\n' (applyRules rules code).1 =
    if linesAfter rules (splitAt '\n' code) = [] then [[]]
    else linesAfter rules (splitAt '\n' code)
  length_le : (splitAt '\n' (applyRules rules code).1).length ≤ (splitAt '\n' code).length
  /-- The rules that were applied are told round by round, and in each round line by line. -/
  applied : (applyRules rules code).2 = appliedTo rules maxPasses (splitAt '\n' code)
  /-- They are told once for each time that one was applied to a line. -/
  entries : (applyRules rules code).2.Perm
    ((splitAt '\n' code).flatMap fun line => (course rules maxPasses line).applied)

theorem linesAfter_eq (rules : List Rule) (lines : List (List Char)) :
    linesAfter rules lines = leftOf rules maxPasses lines := by
  unfold linesAfter
  rw [passes_eq]

theorem linesAfter_append (lines₁ lines₂ : List (List Char)) :
    linesAfter rules (lines₁ ++ lines₂) = linesAfter rules lines₁ ++ linesAfter rules lines₂ := by
  simp only [linesAfter_eq, leftOf_append]

theorem linesAfter_cons_of_isComment (h : isComment line = true) (lines : List (List Char)) :
    linesAfter rules (line :: lines) = line :: linesAfter rules lines := by
  simp only [linesAfter_eq, leftOf_cons_of_isComment h]

theorem length_linesAfter_le (rules : List Rule) (lines : List (List Char)) :
    (linesAfter rules lines).length ≤ lines.length := by
  rw [linesAfter_eq]
  exact List.length_filterMap_le _ lines

theorem applyRules_eq (rules : List Rule) (code : List Char) :
    applyRules rules code =
      (joinWith ['\n'] (linesAfter rules (splitAt '\n' code)),
        appliedTo rules maxPasses (splitAt '\n' code)) := by
  rw [applyRules, linesAfter, passes_eq]

/-- The lines of the program that comes out are the lines that are left. -/
theorem splitAt_applyRules {weight : Char → Int} (hrules : ∀ rule ∈ rules, Tame weight rule)
    (code : List Char) :
    splitAt '\n' (applyRules rules code).1 =
      if linesAfter rules (splitAt '\n' code) = [] then [[]]
      else linesAfter rules (splitAt '\n' code) := by
  rw [applyRules_eq]
  by_cases hnone : linesAfter rules (splitAt '\n' code) = []
  · rw [if_pos hnone, hnone]
    rfl
  · have honeLine : ∀ line ∈ linesAfter rules (splitAt '\n' code), '\n' ∉ line :=
      passes_oneLine hrules maxPasses fun line hline => not_mem_of_mem_splitAt hline
    rw [if_neg hnone]
    exact splitAt_joinWith hnone honeLine

theorem length_splitAt_applyRules_le {weight : Char → Int}
    (hrules : ∀ rule ∈ rules, Tame weight rule) (code : List Char) :
    (splitAt '\n' (applyRules rules code).1).length ≤ (splitAt '\n' code).length := by
  rw [splitAt_applyRules hrules]
  split
  · have hne : splitAt '\n' code ≠ [] := splitAt_ne_nil '\n' code
    exact List.length_pos_of_ne_nil hne
  · exact length_linesAfter_le rules _

/-- **Rules are applied line by line,** the built-in ones and whatever was learned. -/
theorem lineByLine_allRules {s : Store} (hs : s.Reachable) (d : Diagnosis) (code : List Char) :
    LineByLine (s.allRules d) code := by
  have hrules : ∀ rule ∈ s.allRules d, Tame (weightOf d) rule := hs.tame
  constructor
  case left => exact linesAfter_eq _ _
  case all_passes => exact passes_eq_iterate maxPasses _
  case order =>
    rw [linesAfter_eq]
    exact exists_kept _ maxPasses _
  case comment =>
    intro before line after hlines hcomment
    rw [hlines, linesAfter_append, linesAfter_cons_of_isComment hcomment]
  case append => exact linesAfter_append
  case text => exact splitAt_applyRules hrules code
  case length_le => exact length_splitAt_applyRules_le hrules code
  case applied => rw [applyRules_eq]
  case entries =>
    rw [applyRules_eq]
    exact appliedTo_perm _ maxPasses _

/-- Two calls named by the message are wrapped on one line, in two rounds, while a line without the
comma gets its fallback in the first round and a comment stays as it is. -/
theorem lineByLine_allRules_wrapped :
    let message := "error[E103]: unhandled fallible: `parse_json(.m)` and `to_int(.n)`"
    let code := "# parse_json(.m)\n.a = [parse_json(.m), to_int(.n)]\n.b = parse_json(.m)"
    let fixed := "# parse_json(.m)\n.a = [(parse_json(.m) ?? null), (to_int(.n) ?? null)]\n" ++
      ".b = parse_json(.m) ?? null"
    let s := Store.empty.read message
    s.Reachable ∧ LineByLine (s.allRules .unhandledFallible) code.toList ∧
      applyRules (s.allRules .unhandledFallible) code.toList = (fixed.toList,
        ["learned_wrap_fallible", "parse_assignment_default", "learned_wrap_fallible"]) := by
  intro message code fixed s
  have hs : s.Reachable := Store.Reachable.empty.read message
  refine ⟨hs, lineByLine_allRules hs _ _, ?_⟩
  decide +kernel

end RemapSynth.Fix
