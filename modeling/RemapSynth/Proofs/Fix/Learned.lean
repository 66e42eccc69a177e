/-
What a learned rule does. There are two kinds of them (`lesson_cases`). Both
only put something into a line, and what they put in keeps them from being set
off again: a comment is no longer the line that the rule looks for, which was
none, and a wrapped call is what the rule's own guard looks for. The constructs
may be any text of a message, so nothing but that is used of them.
-/
import Mathlib.Data.List.TakeWhile
import Mathlib.Logic.Function.Iterate
import RemapSynth.Fix.Lesson
import RemapSynth.Proofs.Fix.Tame
import RemapSynth.Proofs.Text.Trim

namespace RemapSynth.Fix

open Chars

variable {d : Diagnosis} {message fallback : String} {lesson : Lesson}
  {line new quoted call : List Char}

/-! ## The two kinds of rules -/

/-- A call with a fallback, in parentheses. -/
def wrapped (call : List Char) (fallback : String) : List Char :=
  ['('] ++ call ++ " ?? ".toList ++ fallback.toList ++ [')']

/-- The rule that comments a program line out. -/
def commentRule (quoted : List Char) : Rule :=
  ⟨"learned_comment_out", .line (.ofList quoted), .commentOut, []⟩

/-- The rule that gives a call a fallback. -/
def wrapRule (call : List Char) (fallback : String) : Rule :=
  ⟨"learned_wrap_fallible", .contains (.ofList call),
    .replace (.ofList call) (.ofList (wrapped call fallback)),
    [.ofList (wrapped call fallback), .ofList (call ++ " ??".toList)]⟩

/-- A message quotes a construct: as a program line that it shows, or as a snippet. -/
def Quotes (d : Diagnosis) (message : String) (construct : List Char) : Prop :=
  match d with
  | .malformed => construct ∈ quotedLines message.toList
  | .unhandledFallible => construct ∈ (snippets (· != backtick) message.toList).map trim
  | _ => False

/-- **Every lesson is one of two.** A program line that is no comment is to be commented out, or a
call that can fail is to get a fallback. -/
theorem lesson_cases (h : lesson ∈ lessons d message) :
    Quotes d message lesson.construct.toList ∧
    (d = .malformed ∧ lesson.construct.toList.head? ≠ some '#' ∧
        contains lesson.construct.toList "return".toList = true ∧
        lesson.rule = commentRule lesson.construct.toList ∨
      d = .unhandledFallible ∧ ∃ fallback, fallback? lesson.construct.toList = some fallback ∧
        lesson.rule = wrapRule lesson.construct.toList fallback) := by
  cases d with
  | malformed =>
    rw [lessons] at h
    split at h
    case isFalse => cases h
    case isTrue =>
      obtain ⟨quoted, hquoted, hlesson⟩ := List.mem_filterMap.1 h
      rw [returnLesson?] at hlesson
      split at hlesson
      case isFalse => cases hlesson
      case isTrue hreturn =>
        cases hlesson
        rw [String.toList_ofList]
        exact ⟨hquoted, .inl ⟨rfl, hreturn.2, hreturn.1, rfl⟩⟩
  | unhandledFallible =>
    obtain ⟨snippet, hsnippet, hlesson⟩ := List.mem_filterMap.1 h
    simp only [callLesson?] at hlesson
    split at hlesson
    case isTrue => cases hlesson
    case isFalse =>
      obtain ⟨fallback, hfallback, rfl⟩ := Option.map_eq_some_iff.1 hlesson
      rw [String.toList_ofList]
      refine ⟨List.mem_map_of_mem hsnippet, .inr ⟨rfl, fallback, hfallback, ?_⟩⟩
      have hwrapped : "(" ++ String.ofList (trim snippet) ++ " ?? " ++ fallback ++ ")" =
          String.ofList (wrapped (trim snippet) fallback) := by
        rw [← String.toList_inj]
        simp [wrapped]
      have hopen : String.ofList (trim snippet) ++ " ??" =
          String.ofList (trim snippet ++ " ??".toList) := by
        rw [← String.toList_inj]
        simp
      rw [wrapRule, hwrapped, hopen]
  | _ => cases h

/-! ## Comments -/

theorem commented_ne (line : List Char) : commented line ≠ line := by
  obtain ⟨blank, rest, hline, hcommented⟩ := commented_eq line
  intro heq
  have hlength := congrArg List.length heq
  rw [hcommented, hline] at hlength
  simp only [List.length_append, List.length_cons, List.length_nil] at hlength
  omega

/-- A comment, trimmed, begins with its mark. -/
theorem head?_trim_commented (line : List Char) : (trim (commented line)).head? = some '#' := by
  have hhash : Text.isBlank '#' = false := by decide
  have hblank : ∀ c ∈ line.takeWhile Text.isBlank, Text.isBlank c = true :=
    fun c hc => List.mem_takeWhile_imp hc
  have hstart : trimStart (commented line) = '#' :: ' ' :: trimStart line := by
    rw [commented, trimStart, List.append_assoc, List.dropWhile_append_of_pos hblank]
    exact List.dropWhile_cons_of_neg (by simp [hhash])
  have hne : trim (commented line) ≠ [] := trim_ne_nil hhash (by simp [commented])
  obtain ⟨c, rest, htrim⟩ := List.exists_cons_of_ne_nil hne
  have hprefix := trim_prefix_trimStart (commented line)
  rw [htrim, hstart] at hprefix
  rw [htrim, (List.cons_prefix_cons.1 hprefix).1]
  rfl

theorem apply_commentRule (quoted line : List Char) :
    (commentRule quoted).apply line =
      if trim line = quoted then .replace (commented line) else .unchanged := by
  have hfires : (commentRule quoted).trigger.fires line = (trim line == quoted) := by
    rw [commentRule, Trigger.fires, String.toList_ofList]
  have hedit : (commentRule quoted).edit line = .replace (commented line) := by
    rw [commentRule, Rule.edit, Edit.of, if_neg (commented_ne line)]
  have hguards :
      ((commentRule quoted).guards.any fun guard => contains line guard.toList) = false := rfl
  rw [Rule.apply, hguards, hfires, hedit]
  simp

theorem apply_commentRule_commented (h : quoted.head? ≠ some '#') (line : List Char) :
    (commentRule quoted).apply (commented line) = .unchanged := by
  rw [apply_commentRule, if_neg]
  rintro rfl
  exact h (head?_trim_commented line)

/-! ## Fallbacks -/

/-- A guard of a call's rule keeps it from a line: the call has its fallback there, or another. -/
def HasFallback (call : List Char) (fallback : String) (line : List Char) : Prop :=
  wrapped call fallback <:+: line ∨ call ++ " ??".toList <:+: line

theorem apply_wrapRule_of_hasFallback (h : HasFallback call fallback line) :
    (wrapRule call fallback).apply line = .unchanged := by
  rw [Rule.apply, if_pos]
  simpa [wrapRule, contains_iff_infix, HasFallback] using h

theorem apply_wrapRule_of_not (h : ¬ HasFallback call fallback line) :
    (wrapRule call fallback).apply line =
      match breakOn call line with
      | some (before, after) => .replace (before ++ wrapped call fallback ++ after)
      | none => .unchanged := by
  have hguards : ¬ ((wrapRule call fallback).guards.any fun guard =>
      contains line guard.toList) = true := by
    simpa [wrapRule, contains_iff_infix, HasFallback] using h
  have hfires : (wrapRule call fallback).trigger.fires line = (breakOn call line).isSome := by
    rw [wrapRule, Trigger.fires, String.toList_ofList, contains]
  rw [Rule.apply, if_neg hguards, hfires]
  cases hbreak : breakOn call line with
  | none => rfl
  | some parts =>
    obtain ⟨before, after⟩ := parts
    have hne : before ++ wrapped call fallback ++ after ≠ line := by
      intro heq
      exact h (.inl ⟨before, after, heq⟩)
    have hedit : (wrapRule call fallback).edit line =
        Edit.of line (before ++ wrapped call fallback ++ after) := by
      simp only [wrapRule, Rule.edit, String.toList_ofList, replaceFirst, hbreak]
    rw [hedit, Edit.of, if_neg hne]
    rfl

/-! ## What a rule puts in -/

/-- What a lesson's rule makes of a line: it puts something into it and changes nothing else. -/
inductive Inserts (d : Diagnosis) (lesson : Lesson) : List Char → List Char → Prop
  /-- The line is the construct, and gets the mark of a comment behind its indentation. -/
  | mark {indent rest : List Char} (hd : d = .malformed)
      (hindent : ∀ c ∈ indent, Text.isBlank c = true)
      (hrest : ∀ c ∈ rest.head?, Text.isBlank c = false)
      (hline : trim (indent ++ rest) = lesson.construct.toList) :
    Inserts d lesson (indent ++ rest) (indent ++ "# ".toList ++ rest)
  /-- The construct occurs in the line, nowhere with a fallback, and gets one where it occurs
  first. -/
  | fallback {line before after : List Char} {fallback : String} (hd : d = .unhandledFallible)
      (hfallback : fallback? lesson.construct.toList = some fallback)
      (hfirst : FirstIn lesson.construct.toList line before after)
      (hhas : ¬ HasFallback lesson.construct.toList fallback line) :
    Inserts d lesson line (before ++ wrapped lesson.construct.toList fallback ++ after)

theorem exists_indent (line : List Char) :
    ∃ indent rest, line = indent ++ rest ∧ (∀ c ∈ indent, Text.isBlank c = true) ∧
      ∀ c ∈ rest.head?, Text.isBlank c = false :=
  ⟨line.takeWhile Text.isBlank, line.dropWhile Text.isBlank,
    List.takeWhile_append_dropWhile.symm, fun _ hc => List.mem_takeWhile_imp hc,
    fun _ hc => of_mem_head?_dropWhile hc⟩

theorem commented_append {indent rest : List Char} (hindent : ∀ c ∈ indent, Text.isBlank c = true)
    (hrest : ∀ c ∈ rest.head?, Text.isBlank c = false) :
    commented (indent ++ rest) = indent ++ "# ".toList ++ rest := by
  obtain ⟨htake, hdrop⟩ := takeWhile_append_of_head hindent hrest
  rw [commented, trimStart, htake, hdrop]
  rfl

/-- **What a learned rule makes of a line.** -/
theorem apply_eq_replace_iff (h : lesson ∈ lessons d message) :
    lesson.rule.apply line = .replace new ↔ Inserts d lesson line new := by
  obtain ⟨-, ⟨rfl, -, -, hrule⟩ | ⟨rfl, fallback, hfallback, hrule⟩⟩ := lesson_cases h
  · rw [hrule, apply_commentRule]
    constructor
    · intro happly
      split at happly
      case isFalse => cases happly
      case isTrue hline =>
        cases happly
        obtain ⟨indent, rest, rfl, hindent, hrest⟩ := exists_indent line
        rw [commented_append hindent hrest]
        exact .mark rfl hindent hrest hline
    · intro hinserts
      cases hinserts with
      | mark _ hindent hrest hline => rw [if_pos hline, commented_append hindent hrest]
      | fallback hd => cases hd
  · rw [hrule]
    constructor
    · intro happly
      by_cases hhas : HasFallback lesson.construct.toList fallback line
      · rw [apply_wrapRule_of_hasFallback hhas] at happly
        cases happly
      · rw [apply_wrapRule_of_not hhas] at happly
        cases hbreak : breakOn lesson.construct.toList line with
        | none => simp [hbreak] at happly
        | some parts =>
          obtain ⟨before, after⟩ := parts
          rw [hbreak] at happly
          cases happly
          exact .fallback rfl hfallback (.of_breakOn hbreak) hhas
    · intro hinserts
      cases hinserts with
      | mark hd => cases hd
      | fallback _ hfallback' hfirst hhas =>
        obtain rfl := Option.some.inj (hfallback.symm.trans hfallback')
        rw [apply_wrapRule_of_not hhas, breakOn_eq_some_iff.2 hfirst]

theorem apply_ne_drop (h : lesson ∈ lessons d message) (line : List Char) :
    lesson.rule.apply line ≠ .drop := by
  obtain ⟨-, ⟨-, -, -, hrule⟩ | ⟨-, fallback, -, hrule⟩⟩ := lesson_cases h
  · rw [hrule, apply_commentRule]
    split <;> simp
  · rw [hrule]
    by_cases hhas : HasFallback lesson.construct.toList fallback line
    · simp [apply_wrapRule_of_hasFallback hhas]
    · rw [apply_wrapRule_of_not hhas]
      split <;> simp

/-- **A learned rule leaves alone what it made.** -/
theorem apply_of_apply (h : lesson ∈ lessons d message)
    (happly : lesson.rule.apply line = .replace new) : lesson.rule.apply new = .unchanged := by
  obtain ⟨-, ⟨rfl, hhead, -, hrule⟩ | ⟨rfl, fallback, hfallback, hrule⟩⟩ := lesson_cases h
  · rw [hrule, apply_commentRule] at happly
    split at happly
    case isFalse => cases happly
    case isTrue =>
      cases happly
      rw [hrule]
      exact apply_commentRule_commented hhead line
  · cases (apply_eq_replace_iff h).1 happly with
    | mark hd => cases hd
    | @fallback _ before after _ _ hfallback' =>
      obtain rfl := Option.some.inj (hfallback.symm.trans hfallback')
      rw [hrule]
      exact apply_wrapRule_of_hasFallback (.inl ⟨before, after, rfl⟩)

/-! ## One rule over and over -/

/-- What is left of a line by a rule that drops none. -/
def revised (rule : Rule) (line : List Char) : List Char :=
  match rule.apply line with
  | .replace new => new
  | .unchanged | .drop => line

theorem revised_revised (h : lesson ∈ lessons d message) (line : List Char) :
    revised lesson.rule (revised lesson.rule line) = revised lesson.rule line := by
  have hsame (line : List Char) (hline : lesson.rule.apply line = .unchanged) :
      revised lesson.rule line = line := by
    rw [revised, hline]
  cases happly : lesson.rule.apply line with
  | unchanged => rw [hsame line happly, hsame line happly]
  | drop => exact absurd happly (apply_ne_drop h line)
  | replace new =>
    have hnew : revised lesson.rule line = new := by rw [revised, happly]
    rw [hnew, hsame new (apply_of_apply h happly)]

/-- **Learned rules are precise and stable.** The construct of a lesson is quoted in its message.
Its rule either leaves a line alone or puts the mark of a comment or a fallback into it, just where
the line asks for that, and it leaves alone what it has made. So applied any number of times it
makes of a line what it makes of it the first time. -/
theorem learned_precise_and_stable (h : lesson ∈ lessons d message) (line : List Char) :
    Quotes d message lesson.construct.toList ∧
    (lesson.rule.apply line = .unchanged ∨ ∃ new, lesson.rule.apply line = .replace new) ∧
    (∀ new, lesson.rule.apply line = .replace new ↔ Inserts d lesson line new) ∧
    (∀ new, lesson.rule.apply line = .replace new → lesson.rule.apply new = .unchanged) ∧
    ∀ n, (revised lesson.rule)^[n + 1] line = revised lesson.rule line := by
  refine ⟨(lesson_cases h).1, ?_, fun new => apply_eq_replace_iff h, fun new => apply_of_apply h,
    fun n => ?_⟩
  · cases happly : lesson.rule.apply line with
    | unchanged => exact .inl rfl
    | drop => exact absurd happly (apply_ne_drop h line)
    | replace new => exact .inr ⟨new, rfl⟩
  · induction n with
    | zero => rfl
    | succ n ih => rw [Function.iterate_succ_apply', ih, revised_revised h]

/-- A construct that overlaps itself gets its fallback where it occurs first, and once. -/
theorem learned_precise_and_stable_overlapping :
    let lesson : Lesson := ⟨"to_)to_)", wrapRule "to_)to_)".toList "null"⟩
    let new := ".a = (to_)to_) ?? null)to_)".toList
    lesson ∈ lessons .unhandledFallible "error[E103]: `to_)to_)` is fallible" ∧
      lesson.rule.apply ".a = to_)to_)to_)".toList = .replace new ∧
      Inserts .unhandledFallible lesson ".a = to_)to_)to_)".toList new ∧
      lesson.rule.apply new = .unchanged := by
  intro lesson new
  have hlesson : lesson ∈ lessons .unhandledFallible "error[E103]: `to_)to_)` is fallible" :=
    List.mem_filterMap.2 ⟨"to_)to_)".toList, by decide +kernel, rfl⟩
  have happly : lesson.rule.apply ".a = to_)to_)to_)".toList = .replace new := by decide +kernel
  obtain ⟨-, -, hinserts, hstable, -⟩ :=
    learned_precise_and_stable hlesson ".a = to_)to_)to_)".toList
  exact ⟨hlesson, happly, (hinserts new).1 happly, hstable new happly⟩

end RemapSynth.Fix
