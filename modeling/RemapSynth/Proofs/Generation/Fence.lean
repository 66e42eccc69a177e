/-
Programs between fences. What is taken from an answer as its program is not
blank at either end and holds no fence, so put between fences it is found there
again: what the conversation keeps of an answer is the program that was taken
from it.

The other way round, a program that stands behind the first fence of its kind
is the one that is taken, whatever else the answer holds. No two fences
overlap across what stands before the opening one, since the `l` at its end
stands nowhere else in it (`infix_of_infix_append`), nor across the line feed
before the closing one.
-/
import RemapSynth.Generation.Prompt
import RemapSynth.Proofs.Text.Lines
import RemapSynth.Text.Snippet

namespace RemapSynth.Prompt

open Chars

/-- What a program taken from an answer is like. -/
structure Taken (code : String) : Prop where
  nonempty : code ≠ ""
  head : ∀ c ∈ code.toList.head?, Text.isBlank c = false
  last : ∀ c ∈ code.toList.getLast?, Text.isBlank c = false
  fenceless : Text.contains code "```" = false

variable {answer before body after code : List Char}

/-! ## Finding the fences -/

/-- A text whose last character stands nowhere else in it does not begin in one text and end in
its own front. -/
theorem infix_of_infix_append {needle : List Char} {c : Char} (hlast : needle.getLast? = some c)
    (hc : c ∉ needle.dropLast) (h : needle <:+: before ++ needle.dropLast) :
    needle <:+: before := by
  obtain h | h | ⟨s, t, hst, hs, ht⟩ := List.infix_append_iff.1 h
  · exact h
  · exact absurd (h.subset (List.mem_of_getLast? hlast)) hc
  · rcases List.eq_nil_or_concat t with rfl | ⟨t, d, rfl⟩
    · rw [hst, List.append_nil]
      exact hs.isInfix
    · have hd : d = c := by simpa [hst] using hlast
      exact absurd (ht.subset (by simp [hd])) hc

theorem afterFence?_program (h : ¬ programFence <:+: before) (rest : List Char) :
    afterFence? (before ++ programFence ++ rest) = some ("vrl".toList ++ rest) := by
  have hfirst : ¬ programFence <:+: before ++ programFence.dropLast :=
    fun hin => h (infix_of_infix_append (c := 'l') (by decide) (by decide) hin)
  rw [afterFence?, breakOn_append (by decide) hfirst rest]
  show some ((before ++ programFence ++ rest).drop (before.length + 3)) = some ("vrl".toList ++ rest)
  rw [List.append_assoc, ← List.drop_drop, List.drop_left]
  rfl

theorem block?_program (hbefore : ¬ programFence <:+: before) (hbody : ¬ fence <:+: body)
    (after : List Char) :
    block? (before ++ programFence ++ '\n' :: (body ++ ['\n'] ++ fence ++ after)) =
      some (body ++ ['\n']) := by
  have hfirst : ¬ fence <:+: body ++ ['\n'] ++ fence.dropLast := by
    rw [List.append_assoc, List.singleton_append, infix_append_cons_iff (by decide), not_or]
    exact ⟨hbody, by decide⟩
  have hbreak := breakOn_append (by decide) hfirst after
  have hline (rest : List Char) :
      ("vrl".toList ++ '\n' :: rest).dropWhile (· ≠ '\n') = '\n' :: rest :=
    dropWhile_ne_append (by decide) rest
  rw [block?, afterFence?_program hbefore]
  simp only [hline, hbreak]

/-! ## Taking the program -/

theorem not_isBlank_head_program (s : List Char) :
    ∀ c ∈ (programFence ++ s).head?, Text.isBlank c = false := by
  have hhead : programFence.head? = some backtick := by decide
  rw [List.head?_append, hhead, Option.some_or]
  rintro _ ⟨⟩
  decide

theorem not_isBlank_last_fence (s : List Char) :
    ∀ c ∈ (s ++ fence).getLast?, Text.isBlank c = false := by
  have hlast : fence.getLast? = some backtick := by decide
  rw [List.getLast?_append, hlast, Option.some_or]
  rintro _ ⟨⟩
  decide

/-- What stands around the fences is trimmed, the fences and what stands between them are not. -/
theorem trim_program (before body after : List Char) :
    trim (before ++ programFence ++ '\n' :: (body ++ ['\n'] ++ fence ++ after)) =
      trimStart before ++ programFence ++ '\n' :: (body ++ ['\n'] ++ fence ++ trimEnd after) := by
  have hcore (before after : List Char) :
      before ++ programFence ++ '\n' :: (body ++ ['\n'] ++ fence ++ after) =
        before ++ (programFence ++ ('\n' :: (body ++ ['\n'])) ++ fence) ++ after := by simp
  have hhead := not_isBlank_head_program ('\n' :: (body ++ ['\n']) ++ fence)
  rw [← List.append_assoc] at hhead
  rw [hcore, hcore]
  have hne : programFence ++ '\n' :: (body ++ ['\n']) ++ fence ≠ [] :=
    List.append_ne_nil_of_right_ne_nil _ (by decide)
  exact trim_append_append hne hhead (not_isBlank_last_fence _) before after

/-- **The program behind the first fence of its kind is taken.** -/
theorem programChars?_program (hbefore : ¬ programFence <:+: before) (hbody : ¬ fence <:+: body)
    (hblank : trim body ≠ []) (after : List Char) :
    programChars? (before ++ programFence ++ '\n' :: (body ++ ['\n'] ++ fence ++ after)) =
      some (trim body) := by
  have hstart : ¬ programFence <:+: trimStart before :=
    fun hin => hbefore (hin.trans (List.dropWhile_suffix _).isInfix)
  have hfence : fence <:+: trimStart before ++ programFence ++
      '\n' :: (body ++ ['\n'] ++ fence ++ trimEnd after) := by
    have hopen : fence <:+: programFence := by decide
    exact (hopen.trans List.infix_append_right).trans List.infix_append_left
  have hline : trim (body ++ ['\n']) = trim body := trim_append_blank (List.all_eq_true.1 (by decide)) body
  rw [programChars?, trim_program]
  simp only [Chars.contains_iff_infix.2 hfence, if_true, block?_program hstart hbody,
    Option.map_some, hline]
  exact Option.filter_eq_some_iff.2 ⟨rfl, by simpa using hblank⟩

theorem not_fence_infix_of_block? (h : block? answer = some body) : ¬ fence <:+: body := by
  rw [block?] at h
  split at h
  · cases h
  · split at h
    · cases h
    · split at h
      case h_1 hbreak =>
        cases h
        exact not_infix_of_breakOn (by decide) hbreak
      case h_2 hbreak =>
        cases h
        rw [← Chars.contains_iff_infix, contains, hbreak]
        exact Bool.false_ne_true

/-- What is taken as the program is trimmed, not empty, and holds no fence. -/
theorem of_programChars? (h : programChars? answer = some code) :
    code ≠ [] ∧ trim code = code ∧ ¬ fence <:+: code := by
  rw [programChars?, Option.filter_eq_some_iff, Option.map_eq_some_iff] at h
  obtain ⟨⟨body, hbody, rfl⟩, hne⟩ := h
  have hfenceless : ¬ fence <:+: body := by
    split at hbody
    case isTrue => exact not_fence_infix_of_block? hbody
    case isFalse hnone =>
      cases hbody
      rwa [Chars.contains_iff_infix] at hnone
  refine ⟨by simpa using hne, trim_trim body, fun hin => ?_⟩
  exact hfenceless (hin.trans (infix_of_trim body))

theorem program?_fences {before body : String} (hbefore : Text.contains before "```vrl" = false)
    (hbody : Text.contains body "```" = false) (hblank : Text.isBlankText body = false)
    (after : String) :
    program? (before ++ "```vrl" ++ "\n" ++ body ++ "\n" ++ "```" ++ after) =
      some (Text.trim body) := by
  have hopen : ¬ programFence <:+: before.toList := by
    rw [← Chars.contains_iff_infix]
    exact ne_true_of_eq_false hbefore
  have hclose : ¬ fence <:+: body.toList := by
    rw [← Chars.contains_iff_infix]
    exact ne_true_of_eq_false hbody
  obtain ⟨c, hc, hcblank⟩ := List.all_eq_false.1 hblank
  have hne : trim body.toList ≠ [] := trim_ne_nil (by simpa using hcblank) hc
  have htext : (before ++ "```vrl" ++ "\n" ++ body ++ "\n" ++ "```" ++ after).toList =
      before.toList ++ programFence ++
        '\n' :: (body.toList ++ ['\n'] ++ fence ++ after.toList) := by
    simp only [String.toList_append, List.append_assoc]
    rfl
  rw [program?, htext, programChars?_program hopen hclose hne]
  rfl

theorem Taken.of_program? {answer code : String} (h : program? answer = some code) :
    Taken code := by
  obtain ⟨chars, hchars, rfl⟩ := Option.map_eq_some_iff.1 h
  obtain ⟨hne, htrim, hfenceless⟩ := of_programChars? hchars
  constructor
  case nonempty => simpa using hne
  case head =>
    rw [String.toList_ofList, ← htrim]
    exact fun _ => not_isBlank_head_trim
  case last =>
    rw [String.toList_ofList, ← htrim]
    exact fun _ => not_isBlank_last_trim
  case fenceless =>
    rw [← Chars.contains_iff_infix, Bool.not_eq_true] at hfenceless
    rwa [Text.contains, String.toList_ofList]

theorem Taken.program?_fenced {code : String} (h : Taken code) :
    program? (fenced code) = some code := by
  obtain ⟨c, rest, hcode⟩ := List.exists_cons_of_ne_nil fun hnil =>
    h.nonempty (String.toList_eq_nil_iff.1 hnil)
  have hc : Text.isBlank c = false := h.head c (by rw [hcode]; rfl)
  have hblank : Text.isBlankText code = false := by simp [Text.isBlankText, isBlank, hcode, hc]
  have htext : fenced code = "" ++ "```vrl" ++ "\n" ++ code ++ "\n" ++ "```" ++ "" := by
    apply String.ext
    simp [fenced]
  have htrim : Text.trim code = code := by
    rw [Text.trim, trim_eq_self h.head h.last, String.ofList_toList]
  rw [htext, program?_fences (by decide) h.fenceless hblank, htrim]

/-- **A program taken from an answer is found again between the fences it is kept in,** and what
stands behind the first fence of its kind is taken. A program that is taken is not empty, neither
begins nor ends with a blank, and holds no fence. -/
theorem program?_of_fenced :
    (∀ answer code, program? answer = some code →
      Taken code ∧ program? (fenced code) = some code) ∧
    ∀ before body after : String, Text.contains before "```vrl" = false →
      Text.contains body "```" = false → Text.isBlankText body = false →
      program? (before ++ "```vrl" ++ "\n" ++ body ++ "\n" ++ "```" ++ after) =
        some (Text.trim body) := by
  refine ⟨fun answer code h => ?_, fun before body after hbefore hbody hblank => ?_⟩
  · have htaken : Taken code := .of_program? h
    exact ⟨htaken, htaken.program?_fenced⟩
  · exact program?_fences hbefore hbody hblank after

/-- Other blocks stand around the program, and one that nothing closes. -/
theorem program?_of_fenced_among_others :
    let before := "First:\n```json\n[]\n```\nthen"
    let body := "  .a = `b`\n.c = 1"
    let after := "\nor ```vrl\n.d = 2\n```\n```"
    program? (before ++ "```vrl" ++ "\n" ++ body ++ "\n" ++ "```" ++ after) =
        some ".a = `b`\n.c = 1" ∧
      Taken ".a = `b`\n.c = 1" ∧
      program? (fenced ".a = `b`\n.c = 1") = some ".a = `b`\n.c = 1" := by
  intro before body after
  obtain ⟨htaken, hfences⟩ := program?_of_fenced
  have hprogram := hfences before body after (by decide) (by decide) (by decide)
  have htrim : Text.trim body = ".a = `b`\n.c = 1" := by decide
  rw [htrim] at hprogram
  exact ⟨hprogram, htaken _ _ hprogram⟩

end RemapSynth.Prompt
