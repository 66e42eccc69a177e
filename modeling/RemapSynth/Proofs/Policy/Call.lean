/-
Calls on a line. A call goes as far as the parenthesis that opens its
arguments, so a blank behind the end of a line makes no call and hides none
(`callsFrom_concat`): it does not matter to whom a carriage return at the end
belongs, and a line is searched as it would be as a program of its own
(`callsOn_dropReturn`, `callsIn_line`).
-/
import Mathlib.Data.List.Basic
import RemapSynth.Policy.Call
import RemapSynth.Proofs.Text.Lines

namespace RemapSynth.Policy

variable {c : Char} {name line s rest : List Char} {previous : Option Char}

theorem opensArguments_bang (rest : List Char) :
    opensArguments ('!' :: rest) = ((Chars.trimStart rest).head? == some '(') := rfl

theorem opensArguments_of_ne (h : rest.head? ≠ some '!') :
    opensArguments rest = ((Chars.trimStart rest).head? == some '(') := by
  cases rest with
  | nil => rfl
  | cons d rest =>
    have hd : d ≠ '!' := by simpa using h
    simp [opensArguments, hd]

theorem opensArguments_concat (hc : Text.isBlank c = true) (rest : List Char) :
    opensArguments (rest ++ [c]) = opensArguments rest := by
  have htrim (s : List Char) : (Chars.trimStart (s ++ [c])).head? = (Chars.trimStart s).head? := by
    rw [Chars.trimStart, Chars.trimStart, List.dropWhile_append]
    cases hs : s.dropWhile Text.isBlank <;> simp [hc]
  by_cases hrest : rest.head? = some '!'
  · obtain ⟨more, rfl⟩ := List.head?_eq_some_iff.1 hrest
    rw [List.cons_append, opensArguments_bang, opensArguments_bang, htrim]
  · have hmore : (rest ++ [c]).head? ≠ some '!' := by
      cases rest with
      | nil =>
        rintro ⟨⟩
        cases hc
      | cons d rest => simpa using hrest
    rw [opensArguments_of_ne hrest, opensArguments_of_ne hmore, htrim]

theorem mem_of_opensArguments (h : opensArguments rest = true) : '(' ∈ rest := by
  have hmem {s : List Char} (hs : ((Chars.trimStart s).head? == some '(') = true) : '(' ∈ s :=
    (List.dropWhile_suffix Text.isBlank).subset (List.mem_of_head? (beq_iff_eq.1 hs))
  by_cases hrest : rest.head? = some '!'
  · obtain ⟨more, rfl⟩ := List.head?_eq_some_iff.1 hrest
    exact List.mem_cons_of_mem _ (hmem h)
  · rw [opensArguments_of_ne hrest] at h
    exact hmem h

theorem callHere_iff : callHere name previous s = true ↔
    Text.isWordBoundary previous s.head? = true ∧
      ∃ rest, s = name ++ rest ∧ opensArguments rest = true := by
  rw [callHere, Bool.and_eq_true]
  refine and_congr_right fun _ => ?_
  constructor
  · intro h
    split at h
    next rest hrest => exact ⟨rest, Chars.eq_append_of_afterStart? hrest, h⟩
    next => cases h
  · rintro ⟨rest, rfl, hopens⟩
    rw [Chars.afterStart?_append]
    exact hopens

/-- A blank behind the end makes no call and hides none. -/
theorem callsFrom_concat (hc : Text.isBlank c = true) (s : List Char) :
    callsFrom name previous (s ++ [c]) = callsFrom name previous s := by
  -- what is called opens its arguments, and a blank does not
  have hends (s rest : List Char) (h : s ++ [c] = name ++ rest)
      (hopens : opensArguments rest = true) : ∃ before, s = name ++ before ∧
        opensArguments before = true := by
    rcases List.eq_nil_or_concat' rest with rfl | ⟨before, d, rfl⟩
    · cases hopens
    · rw [← List.append_assoc] at h
      obtain ⟨rfl, heq⟩ := List.append_inj' h rfl
      cases heq
      exact ⟨before, rfl, by rwa [opensArguments_concat hc] at hopens⟩
  induction s generalizing previous with
  | nil =>
    have hnone : callHere name previous [c] = false := by
      rw [Bool.eq_false_iff, ne_eq, callHere_iff]
      rintro ⟨-, rest, hrest, hopens⟩
      obtain ⟨before, hbefore, hopens⟩ := hends [] rest hrest hopens
      obtain ⟨-, rfl⟩ := List.append_eq_nil_iff.1 hbefore.symm
      cases hopens
    rw [List.nil_append, callsFrom.eq_2, hnone]
    rfl
  | cons d s ih =>
    have hhere : callHere name previous ((d :: s) ++ [c]) = callHere name previous (d :: s) := by
      rw [Bool.eq_iff_iff, callHere_iff, callHere_iff]
      refine and_congr_right fun _ => ⟨?_, ?_⟩
      · rintro ⟨rest, hrest, hopens⟩
        exact hends (d :: s) rest hrest hopens
      · rintro ⟨rest, hrest, hopens⟩
        exact ⟨rest ++ [c], by rw [hrest, List.append_assoc], by rwa [opensArguments_concat hc]⟩
    rw [List.cons_append, callsFrom, callsFrom, ih, ← List.cons_append, hhere]

theorem mem_of_callsFrom (h : callsFrom name previous s = true) : '(' ∈ s := by
  induction s generalizing previous with
  | nil => cases h
  | cons d s ih =>
    rw [callsFrom, Bool.or_eq_true] at h
    rcases h with h | h
    · obtain ⟨-, rest, hrest, hopens⟩ := callHere_iff.1 h
      rw [hrest]
      exact List.mem_append_right _ (mem_of_opensArguments hopens)
    · exact List.mem_cons_of_mem d (ih h)

/-- A blank line calls nothing. -/
theorem callsOn_of_isBlank (h : Chars.isBlank line = true) (name : List Char) :
    callsOn name line = false := by
  rw [Bool.eq_false_iff]
  intro hcalls
  have hblank : Text.isBlank '(' = true := List.all_eq_true.1 h _ (mem_of_callsFrom hcalls)
  cases hblank

theorem stripFrom_concat (context : Context) (s : List Char) (c : Char) :
    stripFrom context (s ++ [c]) = stripFrom context s ∨
      stripFrom context (s ++ [c]) = stripFrom context s ++ [c] := by
  induction s generalizing context with
  | nil =>
    rw [List.nil_append, stripFrom.eq_2]
    split <;> simp [stripFrom]
  | cons d s ih =>
    rw [List.cons_append, stripFrom, stripFrom]
    split
    · exact .inl rfl
    · rcases ih (context.after d) with h | h
      · exact .inl (by rw [h])
      · exact .inr (by rw [h, List.cons_append])

/-- The carriage return that belongs to a line's end does not matter. -/
theorem callsOn_dropReturn (name line : List Char) :
    callsOn name (stripComment (Chars.dropReturn line)) = callsOn name (stripComment line) := by
  rw [Chars.dropReturn]
  split
  case isFalse => rfl
  case isTrue h =>
    obtain ⟨front, rfl⟩ := List.getLast?_eq_some_iff.1 h
    rw [List.dropLast_concat, stripComment, stripComment]
    rcases stripFrom_concat (.code none) front '\r' with hsame | hmore
    · rw [hsame]
    · rw [hmore, callsOn, callsOn, callsFrom_concat (by decide)]

theorem callsIn_line (h : '\n' ∉ line) (name : List Char) :
    callsIn name line = callsOn name (stripComment line) := by
  rw [callsIn, codeLines]
  by_cases hne : line = []
  · subst hne
    rfl
  · rw [Chars.lines_of_not_mem h hne]
    simp

end RemapSynth.Policy
