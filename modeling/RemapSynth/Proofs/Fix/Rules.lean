/-
Every rule there is, built in or learned, is tame under the weighing of its
kind of error.
-/
import RemapSynth.Proofs.Fix.Tame

namespace RemapSynth.Fix

open Chars Pattern

/-- For rules that take text away: all characters weigh the same. -/
def lengthWeight (c : Char) : Int := if c = '\n' then 0 else 1

/-- For rules that add a fallback: only question marks count, and they weigh less than nothing. -/
def markWeight (c : Char) : Int := if c = '?' then -1 else 0

/-- For rules that take text away or comment a line out. -/
def hashWeight (c : Char) : Int := if c = '\n' then 0 else if c = '#' then -3 else 1

/-- For renamed functions: chosen so that every real name weighs less than the invented one. -/
def nameWeight (c : Char) : Int :=
  if c = '_' ∨ c = 'g' then -1 else if c = 'l' ∨ c = 'r' then 2 else 0

/-- What a character weighs where one kind of error is repaired. -/
def weightOf : Diagnosis → Char → Int
  | .unhandledFallible | .falliblePredicate => markWeight
  | .undefinedFunction => nameWeight
  | .malformed => hashWeight
  | _ => lengthWeight

theorem weightOf_lineFeed (d : Diagnosis) : weightOf d '\n' = 0 := by
  cases d <;> rfl

/-! ## Fallbacks taken away -/

theorem lengthWeight_nonneg (s : List Char) : 0 ≤ weigh lengthWeight s := by
  refine weigh_nonneg fun c _ => ?_
  rw [lengthWeight]
  split <;> simp

theorem weigh_coalesce {s : List Char} {before after : Groups}
    (h : coalesce.Consumes s before after) : 2 ≤ weigh lengthWeight s := by
  obtain ⟨left, rest, -, rfl, -, marks, right, -, rfl, ⟨hmarks, -⟩, -⟩ := h
  have hleft := lengthWeight_nonneg left
  have hright := lengthWeight_nonneg right
  have htwo : weigh lengthWeight marks = 2 := by
    rw [hmarks]
    rfl
  simp only [weigh_append]
  omega

/-- A call keeps its place and loses the fallback behind it. -/
theorem tame_coalesce {name : String} {call fallback : Pattern} (hcall : call.groupless = true)
    (hfallback : fallback.groupless = true) :
    Tame lengthWeight
      (substitution name (sequence [group 1 call, coalesce, fallback]) [.group 1]) := by
  have hleast : 0 < (sequence [group 1 call, coalesce, fallback]).least := by
    show 0 < call.least + (2 + fallback.least)
    omega
  refine tame_substitution hleast fun {s groups} hs => ?_
  -- the call, which is group 1; the operator with its blanks; the fallback
  obtain ⟨kept, rest, -, rfl, ⟨within, hkept, rfl⟩, gone, tail, between, rfl, hgone, htail⟩ := hs
  have hgroups : groups = [(1, kept)] := by
    rw [htail.groups_eq hfallback, hgone.groups_eq rfl, hkept.groups_eq hcall]
  have hexpand : expand groups [.group 1] = kept := by
    rw [hgroups]
    simp [expand]
  have hweight := weigh_coalesce hgone
  have hrest := lengthWeight_nonneg tail
  rw [hexpand]
  refine ⟨?_, ?_⟩
  · simp only [weigh_append]
    omega
  · simp only [List.mem_append, not_or]
    exact And.left

theorem tame_of_mem_coalesceRules {rule : Rule} (h : rule ∈ coalesceRules) :
    Tame lengthWeight rule := by
  have hcall (functions : List String) :
      (sequence [oneOf functions, flatArguments]).groupless = true := by
    rw [sequence_cons_cons, groupless, groupless_oneOf]
    rfl
  simp only [coalesceRules, List.mem_cons, List.not_mem_nil, or_false] at h
  rcases h with rfl | rfl | rfl | rfl | rfl | rfl
  case inr.inr.inr.inr.inr => exact tame_coalesce rfl rfl
  all_goals exact tame_coalesce (hcall _) rfl

/-! ## Fallbacks added -/

theorem markWeight_blanks {s : List Char} (h : ∀ c ∈ s, Text.isBlank c = true) :
    weigh markWeight s = 0 := by
  refine weigh_eq_zero fun c hc => ?_
  have hne : c ≠ '?' := by
    rintro rfl
    exact absurd (h '?' hc) (by decide)
  rw [markWeight, if_neg hne]

/-- An assignment at the end of a line gets a fallback. -/
theorem tame_addFallback {name fallback : String} {functions : List String}
    (hweight : weigh markWeight fallback.toList = 0) (hline : '\n' ∉ fallback.toList) :
    Tame markWeight (addFallback name functions fallback) := by
  refine tame_substitution ?_ fun {s groups} hs => ?_
  · simp only [sequence_cons_cons, sequence_singleton, least, blanks]
    omega
  -- the assignment, which is group 1, and the blanks up to the end of the line
  obtain ⟨-, rest, -, rfl, ⟨rfl, rfl⟩, kept, tail, -, rfl, ⟨within, hkept, rfl⟩, pad, -, -, rfl,
    ⟨-, hpad, rfl⟩, ⟨rfl, rfl⟩⟩ := hs
  have hwithin : within = [] := hkept.groups_eq (by simp [groupless, groupless_oneOf, blanks])
  have hexpand : expand ((1, kept) :: within) [.group 1, .text (" ?? " ++ fallback)] =
      kept ++ [' ', '?', '?', ' '] ++ fallback.toList := by
    simp [expand]
  have hmarks : weigh markWeight [' ', '?', '?', ' '] = -2 := rfl
  rw [hexpand]
  refine ⟨?_, ?_⟩
  · simp only [weigh_append, weigh_nil, markWeight_blanks hpad, hweight, hmarks]
    omega
  · simp only [List.nil_append, List.mem_append, not_or]
    rintro ⟨hkept, -⟩
    simp [hkept, hline]

theorem tame_of_mem_fallibleRules {rule : Rule} (h : rule ∈ fallibleRules) :
    Tame markWeight rule := by
  simp only [fallibleRules, List.mem_cons, List.not_mem_nil, or_false] at h
  rcases h with rfl | rfl
  · exact tame_addFallback rfl (by simp)
  · exact tame_addFallback rfl (by simp)

/-- A condition gets a fallback of its own, in parentheses. -/
theorem tame_of_mem_predicateRules {rule : Rule} (h : rule ∈ predicateRules) :
    Tame markWeight rule := by
  rw [predicateRules, List.mem_singleton] at h
  subst h
  refine tame_substitution (by decide) fun {s groups} hs => ?_
  -- the three groups are all of the text, so only what is put between them counts
  obtain ⟨-, rest, -, rfl, ⟨rfl, rfl⟩, start, rest', groups₁, rfl, ⟨within₁, hstart, rfl⟩,
    condition, brace, groups₂, rfl, ⟨within₂, hcondition, rfl⟩, ⟨within₃, hbrace, rfl⟩⟩ := hs
  have hwithin₁ : within₁ = [] := hstart.groups_eq (by decide)
  have hwithin₂ : within₂ = [(1, start)] := by rw [hcondition.groups_eq (by decide), hwithin₁]
  have hwithin₃ : within₃ = [(2, condition), (1, start)] := by
    rw [hbrace.groups_eq (by decide), hwithin₂]
  have hexpand : expand ((3, brace) :: within₃)
      [.group 1, .text "(", .group 2, .text " ?? false)", .group 3] =
        start ++ ['('] ++ condition ++ " ?? false)".toList ++ brace := by
    rw [hwithin₃]
    simp [expand]
  have hopen : weigh markWeight ['('] = 0 := rfl
  have hmarks : weigh markWeight " ?? false)".toList = -2 := rfl
  rw [hexpand]
  refine ⟨?_, ?_⟩
  · simp only [weigh_append, weigh_nil, hopen, hmarks]
    omega
  · simp only [List.nil_append, List.mem_append, not_or]
    rintro ⟨hstart, hcondition, hbrace⟩
    simp [hstart, hcondition, hbrace]

/-! ## Renamed functions -/

theorem tame_of_mem_aliasRules {rule : Rule} (h : rule ∈ aliasRules) : Tame nameWeight rule := by
  have hlighter : ∀ a ∈ aliases, weigh nameWeight a.2.toList < weigh nameWeight a.1.toList := by
    decide
  have honeLine : ∀ a ∈ aliases, '\n' ∉ a.2.toList := by decide
  obtain ⟨⟨invented, real⟩, ha, rfl⟩ := List.mem_map.mp h
  have hleast : 0 < (sequence [wordEdge, text (invented ++ "(")]).least := by
    have hparen : "(".length = 1 := rfl
    simp only [sequence_cons_cons, sequence_singleton, least, String.length_append]
    omega
  refine tame_substitution hleast fun {s groups} hs => ?_
  obtain ⟨-, name, -, rfl, ⟨rfl, rfl⟩, ⟨rfl, rfl⟩⟩ := hs
  have hexpand (groups : Groups) :
      expand groups [.text (real ++ "(")] = real.toList ++ ['('] := by
    simp [expand]
  rw [hexpand, String.toList_append, List.nil_append]
  refine ⟨?_, ?_⟩
  · have := hlighter _ ha
    simp only [weigh_append]
    exact Int.add_lt_add_right this _
  · simp [honeLine _ ha]

/-! ## Aborts -/

theorem tame_of_mem_abortRules {rule : Rule} (h : rule ∈ abortRules) : Tame lengthWeight rule := by
  have habort : weigh lengthWeight "abort".toList = 5 := rfl
  simp only [abortRules, List.mem_cons, List.not_mem_nil, or_false] at h
  rcases h with rfl | rfl
  · refine tame_dropLine fun line hfires => ?_
    obtain ⟨m, hm⟩ := Option.isSome_iff_exists.mp hfires
    obtain ⟨s, rfl, hs⟩ := search_sound hm
    obtain ⟨start, rest, -, rfl, -, pad, rest, -, rfl, -, word, edge, -, rfl, ⟨rfl, -⟩, -⟩ := hs
    have hbefore := lengthWeight_nonneg m.before
    have hpad := lengthWeight_nonneg pad
    have hedge := lengthWeight_nonneg edge
    have hafter := lengthWeight_nonneg m.after
    have hstart := lengthWeight_nonneg start
    simp only [weigh_append, habort]
    omega
  · refine tame_substitution (by decide) fun {s groups} hs => ?_
    obtain ⟨brace, rest, -, rfl, ⟨rfl, -⟩, pad, rest, -, rfl, -, word, rest, -, rfl, ⟨rfl, -⟩,
      pad', brace, -, rfl, -, ⟨rfl, -⟩⟩ := hs
    have hexpand : expand groups [.text "\x7b\x7d"] = "\x7b".toList ++ "\x7d".toList := rfl
    have hpad := lengthWeight_nonneg pad
    have hpad' := lengthWeight_nonneg pad'
    rw [hexpand]
    refine ⟨?_, ?_⟩
    · simp only [weigh_append, habort]
      omega
    · simp

/-! ## Programs that are not well-formed -/

theorem hashWeight_nonneg {inClass : Char → Bool} {s : List Char} (hhash : inClass '#' = false)
    (h : ∀ c ∈ s, inClass c = true) : 0 ≤ weigh hashWeight s := by
  refine weigh_nonneg fun c hc => ?_
  have hne : c ≠ '#' := by
    rintro rfl
    exact absurd (h '#' hc) (by simp [hhash])
  rw [hashWeight, if_neg hne]
  split <;> simp

theorem tame_of_mem_malformedRules {rule : Rule} (h : rule ∈ malformedRules) :
    Tame hashWeight rule := by
  simp only [malformedRules, List.mem_cons, List.not_mem_nil, or_false] at h
  rcases h with rfl | rfl
  · exact tame_commentOut (by decide) (occursIn_nil (by decide))
  · refine tame_substitution (by decide) fun {s groups} hs => ?_
    obtain ⟨call, rest, -, rfl, ⟨rfl, -⟩, word, rest, -, rfl, ⟨-, hword, -⟩, close, rest, -, rfl,
      ⟨rfl, -⟩, pad, rest, -, rfl, ⟨-, hpad, -⟩, minus, rest, -, rfl, ⟨rfl, -⟩, pad', one, -, rfl,
      ⟨-, hpad', -⟩, ⟨rfl, -⟩⟩ := hs
    have hexpand : expand groups [.text "[-1]"] = "[-1]".toList := rfl
    have hnew : weigh hashWeight "[-1]".toList = 4 := rfl
    have hcall : weigh hashWeight "[length(".toList = 8 := rfl
    have hclose : weigh hashWeight ")".toList = 1 := rfl
    have hminus : weigh hashWeight "-".toList = 1 := rfl
    have hone : weigh hashWeight "1]".toList = 2 := rfl
    have hword := hashWeight_nonneg (by decide) hword
    have hpad := hashWeight_nonneg (by decide) hpad
    have hpad' := hashWeight_nonneg (by decide) hpad'
    rw [hexpand]
    refine ⟨?_, ?_⟩
    · simp only [weigh_append, hnew, hcall, hclose, hminus, hone]
      omega
    · simp

/-- The built-in rules are tame. -/
theorem tame_of_mem_seedsFor {d : Diagnosis} {rule : Rule} (h : rule ∈ seedsFor d) :
    Tame (weightOf d) rule := by
  cases d with
  | unhandledFallible => exact tame_of_mem_fallibleRules h
  | undefinedFunction => exact tame_of_mem_aliasRules h
  | falliblePredicate => exact tame_of_mem_predicateRules h
  | malformed => exact tame_of_mem_malformedRules h
  | abortInInfallible => exact tame_of_mem_abortRules h
  | unnecessaryCoalesce => exact tame_of_mem_coalesceRules h
  | compiler | rejectedConstruct | fieldConflict | timeout | unknown => cases h

/-! ## Learned rules -/

theorem tame_of_returnLesson? {line : List Char} {lesson : Lesson}
    (h : returnLesson? line = some lesson) : Tame hashWeight lesson.rule := by
  rw [returnLesson?] at h
  split at h
  case isFalse => cases h
  case isTrue hreturn =>
    cases h
    refine tame_commentOut (by decide) ?_
    have hne : line ≠ [] := by
      rintro rfl
      exact absurd hreturn.1 (by decide)
    simpa [Trigger.fires, trim, trimStart, trimEnd] using hne.symm

theorem fallback?_cases {call : List Char} {fallback : String}
    (h : fallback? call = some fallback) : fallback = "[]" ∨ fallback = "null" := by
  rw [fallback?] at h
  split at h
  · exact .inl (Option.some.inj h).symm
  · split at h
    · exact .inr (Option.some.inj h).symm
    · cases h

theorem tame_of_callLesson? {snippet : List Char} {lesson : Lesson}
    (h : callLesson? snippet = some lesson) : Tame markWeight lesson.rule := by
  simp only [callLesson?] at h
  split at h
  case isTrue => cases h
  case isFalse hcall =>
    obtain ⟨fallback, hfallback, rfl⟩ := Option.map_eq_some_iff.mp h
    have hne : trim snippet ≠ [] := by
      intro hnil
      simp [hnil] at hcall
    have hmarks : weigh markWeight fallback.toList = 0 := by
      rcases fallback?_cases hfallback with rfl | rfl <;> rfl
    have honeLine : '\n' ∉ fallback.toList := by
      rcases fallback?_cases hfallback with rfl | rfl <;> decide
    refine tame_replacement (by simpa using hne) ?_
    simp only [String.toList_append, String.toList_ofList]
    refine ⟨?_, ?_⟩
    · have hopen : weigh markWeight "(".toList = 0 := rfl
      have hwrap : weigh markWeight " ?? ".toList = -2 := rfl
      have hclose : weigh markWeight ")".toList = 0 := rfl
      simp only [weigh_append, hopen, hwrap, hclose, hmarks]
      omega
    · intro hold
      simp [hold, honeLine]

theorem tame_of_mem_lessons {d : Diagnosis} {message : String} {lesson : Lesson}
    (h : lesson ∈ lessons d message) : Tame (weightOf d) lesson.rule := by
  cases d with
  | malformed =>
    rw [lessons] at h
    split at h
    · obtain ⟨line, -, hline⟩ := List.mem_filterMap.mp h
      exact tame_of_returnLesson? hline
    · cases h
  | unhandledFallible =>
    obtain ⟨snippet, -, hsnippet⟩ := List.mem_filterMap.mp h
    exact tame_of_callLesson? hsnippet
  | _ => cases h

end RemapSynth.Fix
