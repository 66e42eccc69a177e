/-
Where the comment of a line begins. A line is read from left to right in a
context that tells code from literals; a line made of segments, which are code
or whole literals (`IsSegment`), is read in code at the end of each segment, so
the first hash sign behind them is the comment's (`stripComment_of_lexed`).

Of any line at all the comment is what stands behind some hash sign, and
nothing is left to take off once it is gone. What a policy and an estimate say
of a program they say of its lines without their comments, so a comment added
behind a line does not change it.
-/
import Mathlib.Data.Bool.AllAny
import RemapSynth.Policy.Check
import RemapSynth.Proofs.Text.Lines
import RemapSynth.Score.Estimate

namespace RemapSynth.Policy

open Chars Score

/-- The inside of a literal that ends with `close`: a backslash goes with the character behind it,
whatever that is. -/
inductive IsBody (close : Char) : List Char → Prop
  | nil : IsBody close []
  | plain {c : Char} {body : List Char} : c ≠ close → c ≠ '\\' → IsBody close body →
    IsBody close (c :: body)
  | escaped (c : Char) {body : List Char} : IsBody close body → IsBody close ('\\' :: c :: body)

/-- Ordinary characters in front of a body. -/
theorem IsBody.ordinary {close : Char} {s body : List Char} (hbody : IsBody close body)
    (h : ∀ c ∈ s, c ≠ close ∧ c ≠ '\\') : IsBody close (s ++ body) := by
  induction s with
  | nil => exact hbody
  | cons c s ih =>
    obtain ⟨hclose, hescape⟩ := h c List.mem_cons_self
    exact .plain hclose hescape (ih fun d hd => h d (List.mem_cons_of_mem c hd))

/-- A segment of a line: code without quotes and hash signs, or one literal. -/
inductive IsSegment : List Char → Prop
  | code {text : List Char} : (∀ c ∈ text, c ≠ '"' ∧ c ≠ '\'' ∧ c ≠ '#') → IsSegment text
  | quoted {body : List Char} : IsBody '"' body → IsSegment ('"' :: (body ++ ['"']))
  | lettered {letter : Char} {body : List Char} : letter = 'r' ∨ letter = 's' ∨ letter = 't' →
    IsBody '\'' body → IsSegment (letter :: '\'' :: (body ++ ['\'']))

/-- The line is made of segments, and behind them stands nothing or a comment. -/
structure Lexed (line : List Char) (segments : List (List Char)) : Prop where
  segment : ∀ s ∈ segments, IsSegment s
  line_eq : line = segments.flatten ∨ ∃ comment, line = segments.flatten ++ '#' :: comment

/-- `Reads context s next`: no comment begins in `s` when it is read in `context`, and what follows
it is read in `next`. -/
def Reads (context : Context) (s : List Char) (next : Context) : Prop :=
  ∀ rest, stripFrom context (s ++ rest) = s ++ stripFrom next rest

variable {context next : Context} {c close : Char} {s line : List Char}
  {segments : List (List Char)}

/-! ## Segments -/

theorem Reads.nil (context : Context) : Reads context [] context := fun _ => rfl

theorem Reads.cons (hc : context.commentAt c = false) (h : Reads (context.after c) s next) :
    Reads context (c :: s) next := by
  intro rest
  show stripFrom context (c :: (s ++ rest)) = c :: (s ++ stripFrom next rest)
  rw [stripFrom, hc, if_neg Bool.false_ne_true, h rest]

theorem Reads.append {s₁ s₂ : List Char} {between : Context} (h₁ : Reads context s₁ between)
    (h₂ : Reads between s₂ next) : Reads context (s₁ ++ s₂) next := by
  intro rest
  rw [List.append_assoc, h₁, h₂, List.append_assoc]

/-- A quote that no backslash stands before ends the literal. -/
theorem reads_close (close : Char) (hclose : close ≠ '\\') :
    Reads (.literal close false) [close] (.code (some close)) := by
  refine .cons rfl ?_
  have hafter : (Context.literal close false).after close = .code (some close) := by
    simp [Context.after, hclose]
  rw [hafter]
  exact .nil _

/-- The inside of a literal is read in the literal, behind no open backslash. -/
theorem reads_body (h : IsBody close s) :
    Reads (.literal close false) s (.literal close false) := by
  induction h with
  | nil => exact .nil _
  | @plain c body hclose hescape _ ih =>
    refine .cons rfl ?_
    have hafter : (Context.literal close false).after c = .literal close false := by
      simp [Context.after, hclose, hescape]
    rw [hafter]
    exact ih
  | @escaped c body _ ih =>
    refine .cons rfl (.cons rfl ?_)
    have hafter : ((Context.literal close false).after '\\').after c = .literal close false := by
      by_cases hc : c = '\\' <;> simp [Context.after, hc]
    rw [hafter]
    exact ih

/-- A segment begins and ends in code, whatever stands before it. -/
theorem reads_segment (h : IsSegment s) (previous : Option Char) :
    ∃ last, Reads (.code previous) s (.code last) := by
  cases h with
  | code hcode =>
    induction s generalizing previous with
    | nil => exact ⟨previous, .nil _⟩
    | cons c s ih =>
      obtain ⟨hquote, htick, hhash⟩ := hcode c List.mem_cons_self
      obtain ⟨last, hs⟩ := ih (some c) fun d hd => hcode d (List.mem_cons_of_mem c hd)
      have hafter : (Context.code previous).after c = .code (some c) := by
        simp [Context.after, hquote, htick]
      refine ⟨last, .cons (by simpa [Context.commentAt] using hhash) ?_⟩
      rw [hafter]
      exact hs
  | @quoted body hbody =>
    have hopen : (Context.code previous).after '"' = .literal '"' false := by
      simp [Context.after]
    refine ⟨some '"', .cons rfl ?_⟩
    rw [hopen]
    exact (reads_body hbody).append (reads_close '"' (by decide))
  | @lettered letter body hletter hbody =>
    have hcode : letter ≠ '"' ∧ letter ≠ '\'' ∧ letter ≠ '#' := by
      rcases hletter with rfl | rfl | rfl <;> decide
    have hopen : ((Context.code previous).after letter).after '\'' = .literal '\'' false := by
      rcases hletter with rfl | rfl | rfl <;> simp [Context.after, isLiteralLetter]
    refine ⟨some '\'', .cons (by simpa [Context.commentAt] using hcode.2.2) (.cons ?_ ?_)⟩
    · simp [Context.after, hcode.1, hcode.2.1, Context.commentAt]
    · rw [hopen]
      exact (reads_body hbody).append (reads_close '\'' (by decide))

theorem reads_segments (h : ∀ s ∈ segments, IsSegment s) (previous : Option Char) :
    ∃ last, Reads (.code previous) segments.flatten (.code last) := by
  induction segments generalizing previous with
  | nil => exact ⟨previous, .nil _⟩
  | cons s segments ih =>
    obtain ⟨between, hs⟩ := reads_segment (h s List.mem_cons_self) previous
    obtain ⟨last, hrest⟩ := ih (fun t ht => h t (List.mem_cons_of_mem s ht)) between
    exact ⟨last, hs.append hrest⟩

/-- Just the segments are left of a line made of them. -/
theorem stripComment_of_lexed (h : Lexed line segments) :
    stripComment line = segments.flatten := by
  obtain ⟨last, hreads⟩ := reads_segments h.segment none
  rcases h.line_eq with rfl | ⟨comment, rfl⟩
  · have hwhole := hreads []
    rw [List.append_nil] at hwhole
    rw [stripComment, hwhole]
    simp [stripFrom]
  · rw [stripComment, hreads]
    simp [stripFrom, Context.commentAt]

theorem Lexed.append_comment (h : Lexed line segments) (comment : List Char) :
    Lexed (line ++ '#' :: comment) segments := by
  refine ⟨h.segment, .inr ?_⟩
  rcases h.line_eq with rfl | ⟨former, rfl⟩
  · exact ⟨comment, rfl⟩
  · exact ⟨former ++ '#' :: comment, by simp⟩

/-! ## Any line -/

theorem stripFrom_cases (context : Context) (s : List Char) :
    stripFrom context s = s ∨ ∃ comment, s = stripFrom context s ++ '#' :: comment := by
  induction s generalizing context with
  | nil => exact .inl rfl
  | cons c s ih =>
    rw [stripFrom]
    split
    case isTrue hcomment =>
      have hc : c = '#' := by
        cases context with
        | code previous => simpa [Context.commentAt] using hcomment
        | literal close escaped => cases hcomment
      exact .inr ⟨s, by rw [hc]; rfl⟩
    case isFalse =>
      rcases ih (context.after c) with hwhole | ⟨comment, hcut⟩
      · exact .inl (by rw [hwhole])
      · exact .inr ⟨comment, by rw [List.cons_append, ← hcut]⟩

theorem stripFrom_stripFrom (context : Context) (s : List Char) :
    stripFrom context (stripFrom context s) = stripFrom context s := by
  induction s generalizing context with
  | nil => rfl
  | cons c s ih =>
    rw [stripFrom]
    split
    case isTrue => rfl
    case isFalse hcomment => rw [stripFrom, if_neg hcomment, ih]

/-! ## Programs -/

/-- At the end of a commented line only the comment can lose a carriage return. -/
theorem dropReturn_comment (line comment : List Char) :
    ∃ shorter, dropReturn (line ++ '#' :: comment) = line ++ '#' :: shorter := by
  rcases List.eq_nil_or_concat comment with rfl | ⟨start, c, rfl⟩
  · exact ⟨[], dropReturn_of_ne (by simp)⟩
  · have hline : line ++ '#' :: start.concat c = (line ++ '#' :: start) ++ [c] := by simp
    rw [hline, dropReturn]
    split
    · exact ⟨start, by rw [List.dropLast_concat]⟩
    · exact ⟨start ++ [c], by simp⟩

/-- The code of two programs is the same, but for an empty line that the second may end in. -/
def SameCode (program program' : List Char) : Prop :=
  codeLines program' = codeLines program ∨ codeLines program' = codeLines program ++ [[]]

/-- A comment behind a line leaves the code of a program the same. An empty line at the end is no
line at all, so there the comment makes one. -/
theorem sameCode_append_comment {program program' comment : List Char}
    {before after : List (List Char)} (hline : Lexed line segments)
    (hreturn : line.getLast? ≠ some '\r')
    (hprogram : splitAt '\n' program = before ++ line :: after)
    (hprogram' : splitAt '\n' program' = before ++ (line ++ '#' :: comment) :: after) :
    SameCode program program' := by
  have hstrip (comment : List Char) : stripComment (line ++ '#' :: comment) = stripComment line := by
    rw [stripComment_of_lexed (hline.append_comment comment), stripComment_of_lexed hline]
  unfold SameCode codeLines lines
  rw [hprogram, hprogram', linesOfPieces_append (by simp), linesOfPieces_append (by simp)]
  by_cases hlast : after = []
  -- the last line is kept whole, carriage return and all
  · subst hlast
    by_cases hempty : line = []
    · right
      subst hempty
      simp [linesOfPieces, stripComment, stripFrom, Context.commentAt]
    · left
      simp [linesOfPieces, hempty, hstrip]
  · left
    obtain ⟨shorter, hdrop⟩ := dropReturn_comment line comment
    rw [linesOfPieces.eq_3 _ _ hlast, linesOfPieces.eq_3 _ _ hlast, hdrop,
      dropReturn_of_ne hreturn]
    simp [hstrip]

section
variable {program program' : String} (h : SameCode program.toList program'.toList)
include h

theorem SameCode.findRejected_eq (p : Policy) : p.findRejected program' = p.findRejected program := by
  have hcalls (name : List Char) : callsIn name program'.toList = callsIn name program.toList := by
    unfold callsIn
    rcases h with h | h <;> simp [h, callsOn, callsFrom]
  unfold findRejected
  simp only [hcalls]

theorem SameCode.findConflicts_eq (p : Policy) :
    p.findConflicts program' = p.findConflicts program := by
  have hnil : assignments [] = [] := by
    rw [assignments, assignmentsFrom]
    rfl
  have hpaths : assignedPaths program'.toList = assignedPaths program.toList := by
    unfold assignedPaths
    rcases h with h | h <;> simp [h, hnil]
  unfold findConflicts
  rw [hpaths]

theorem SameCode.estimate_eq {α : Type} [Scalar α] (breakpoints : Breakpoints α) :
    estimate program' breakpoints = estimate program breakpoints := by
  have hnil : lineCalls [] = [] := by simp [lineCalls, callsOn, callsFrom]
  have hsites : callSites program'.toList = callSites program.toList := by
    unfold callSites
    rcases h with h | h <;> simp [h, hnil]
  unfold estimate callCounts
  rw [hsites]

end

/-- **Comments are told from code.** Of a line made of segments just the segments are left. Of any
line a front is left that is all of it or has a hash sign behind it, and taking comments off again
changes nothing. So a comment put behind a line that is made of segments changes no finding and no
estimate. -/
theorem comments_told_from_code :
    (∀ line segments, Lexed line segments → stripComment line = segments.flatten) ∧
    (∀ line, stripComment line <+: line ∧
      (stripComment line = line ∨ ∃ comment, line = stripComment line ++ '#' :: comment) ∧
      stripComment (stripComment line) = stripComment line) ∧
    ∀ (program program' : String) (before after : List (List Char)) (line comment : List Char)
      (segments : List (List Char)),
      Lexed line segments → line.getLast? ≠ some '\r' →
      splitAt '\n' program.toList = before ++ line :: after →
      splitAt '\n' program'.toList = before ++ (line ++ '#' :: comment) :: after →
      (∀ p : Policy, p.findRejected program' = p.findRejected program ∧
        p.findConflicts program' = p.findConflicts program) ∧
      ∀ (α : Type) [Scalar α] (breakpoints : Breakpoints α),
        estimate program' breakpoints = estimate program breakpoints := by
  refine ⟨fun _ _ => stripComment_of_lexed, fun line => ?_, ?_⟩
  · have hcases := stripFrom_cases (.code none) line
    have hpre : stripComment line <+: line := by
      rcases hcases with hwhole | ⟨comment, hcut⟩
      · exact ⟨[], by rw [List.append_nil]; exact hwhole⟩
      · exact ⟨'#' :: comment, hcut.symm⟩
    exact ⟨hpre, hcases, stripFrom_stripFrom (.code none) line⟩
  · intro program program' before after line comment segments hline hreturn hprogram hprogram'
    have hsame : SameCode program.toList program'.toList :=
      sameCode_append_comment hline hreturn hprogram hprogram'
    exact ⟨fun p => ⟨hsame.findRejected_eq p, hsame.findConflicts_eq p⟩,
      fun _ _ breakpoints => hsame.estimate_eq breakpoints⟩

/-- An assignment of two literals that hold hash signs, quotes and backslashes. -/
def literalLine : List Char := ".host = s'it\\'s # \"1' + \"a \\\" # 'b\\\\\"".toList

theorem lexed_literalLine :
    Lexed literalLine
      [".host = ".toList, "s'it\\'s # \"1'".toList, " + ".toList,
        "\"a \\\" # 'b\\\\\"".toList] where
  segment := by
    have hcode {text : List Char} (h : text.all fun c => c ≠ '"' ∧ c ≠ '\'' ∧ c ≠ '#') :
        IsSegment text := .code (List.all_iff_forall_prop.1 h)
    have hordinary {close : Char} {s body : List Char} (h : s.all fun c => c ≠ close ∧ c ≠ '\\')
        (hbody : IsBody close body) : IsBody close (s ++ body) :=
      hbody.ordinary (List.all_iff_forall_prop.1 h)
    have hfirst : IsBody '\'' ("it".toList ++ '\\' :: '\'' :: ("s # \"1".toList ++ [])) :=
      hordinary (by decide) (.escaped '\'' (hordinary (by decide) .nil))
    have hsecond : IsBody '"' ("a ".toList ++ '\\' :: '"' :: (" # 'b".toList ++ ['\\', '\\'])) :=
      hordinary (by decide) (.escaped '"' (hordinary (by decide) (.escaped '\\' .nil)))
    simp only [List.forall_mem_cons, List.not_mem_nil, false_imp_iff, implies_true, and_true]
    exact ⟨hcode (by decide), .lettered (.inr (.inl rfl)) hfirst, hcode (by decide),
      .quoted hsecond⟩
  line_eq := .inl (by decide)

theorem comments_told_from_code_literals :
    let program := String.ofList literalLine ++ "\n.a = 1"
    let program' := String.ofList literalLine ++ "# match(.x)\n.a = 1"
    let p := Policy.ofLists ["match"] [] ["host"]
    stripComment (literalLine ++ "# match(.x)".toList) = literalLine ∧
      stripComment (stripComment literalLine) = stripComment literalLine ∧
      p.findRejected program' = [] ∧ p.findConflicts program' = [⟨"host", .exact⟩] ∧
      ∀ breakpoints : Breakpoints, estimate program' breakpoints = estimate program breakpoints := by
  intro program program' p
  obtain ⟨hsegments, hany, hprograms⟩ := comments_told_from_code
  obtain ⟨hfound, hestimate⟩ := hprograms program program' [] [".a = 1".toList] literalLine
    " match(.x)".toList _ lexed_literalLine (by decide) (by decide) (by decide)
  refine ⟨?_, (hany literalLine).2.2, ?_, ?_, hestimate Float⟩
  · exact hsegments _ _ (lexed_literalLine.append_comment " match(.x)".toList)
  · rw [(hfound p).1]
    decide
  · rw [(hfound p).2]
    decide +kernel

end RemapSynth.Policy
