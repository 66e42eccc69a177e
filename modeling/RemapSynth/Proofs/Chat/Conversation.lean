/-
What a conversation holds after any number of turns: the newest of them word
for word, one line each for as many of those before, and nothing of the rest
(`after`). Every turn keeps it so (`push_after`), and so what is sent next is
known whatever was said before (`messagesFor_after`).
-/
import RemapSynth.Chat.Conversation
import RemapSynth.Proofs.Text.Lines

namespace RemapSynth.Chat

/-! ## The line for a turn -/

theorem newline_not_mem_firstLine (s : String) : '\n' ∉ (firstLine s).toList := by
  rw [firstLine]
  cases hline : (Text.lines s).find? fun line => !Text.isBlankText line with
  | none => exact List.not_mem_nil
  | some line =>
    obtain ⟨chars, hchars, rfl⟩ := List.mem_map.1 (List.mem_of_find?_eq_some hline)
    intro hmem
    rw [Option.elim_some, Text.trim, String.toList_ofList, String.toList_ofList] at hmem
    exact Chars.not_mem_of_mem_lines hchars (Chars.mem_of_mem_trim hmem)

theorem firstLine_append {line : String} (hline : '\n' ∉ line.toList)
    (hreturn : line.toList.getLast? ≠ some '\r') (hblank : Text.isBlankText line = false)
    (rest : String) : firstLine (line ++ "\n" ++ rest) = Text.trim line := by
  have hchars : (line ++ "\n" ++ rest).toList = line.toList ++ '\n' :: rest.toList := by simp
  have hlines : Text.lines (line ++ "\n" ++ rest) = line :: Text.lines rest := by
    have hrest : Chars.splitAt '\n' rest.toList ≠ [] := Chars.splitAt_ne_nil _ _
    rw [Text.lines, Chars.lines, hchars, Chars.splitAt_append hline, ← List.singleton_append,
      Chars.linesOfPieces_append hrest, List.map_singleton, Chars.dropReturn_of_ne hreturn,
      List.singleton_append, List.map_cons, String.ofList_toList]
    rfl
  rw [firstLine, hlines, List.find?_cons_of_pos (by simp [hblank])]
  rfl

/-- A turn that can be summed up in full is. -/
theorem digest_eq {asked answered line : String} (hline : firstLine asked = line) (count : Nat)
    (hcount : ((Chars.lines answered.toList).filter isCodeLine).length = count)
    (h : ("asked: " ++ line ++ " | answered with " ++ Nat.repr count ++ " code lines").length ≤
      maxDigest) :
    Turn.digest ⟨asked, answered⟩ =
      "asked: " ++ line ++ " | answered with " ++ Nat.repr count ++ " code lines" := by
  subst hline hcount
  rw [← String.length_toList] at h
  exact (congrArg String.ofList (if_pos h)).trans String.ofList_toList

/-- A turn is summed up in few characters. -/
theorem length_digest_le (t : Turn) : t.digest.length ≤ maxDigest := by
  rw [Turn.digest, Text.truncate, String.length_ofList]
  exact Chars.length_truncate_le _ maxDigest

/-- **A turn is summed up on one line.** -/
theorem lines_digest (t : Turn) : Text.lines t.digest = [t.digest] := by
  have hnumeral (n : Nat) : '\n' ∉ (Nat.repr n).toList := Chars.not_mem_repr (by decide) n
  have htext (n : Nat) : '\n' ∉ ("asked: " ++ firstLine t.asked ++ " | answered with " ++
      Nat.repr n ++ " code lines").toList := by
    simp only [String.toList_append, List.mem_append, not_or]
    exact ⟨⟨⟨⟨by decide, newline_not_mem_firstLine t.asked⟩, by decide⟩, hnumeral n⟩, by decide⟩
  have hchars : Chars.lines t.digest.toList = [t.digest.toList] := by
    rw [Turn.digest, Text.truncate, String.toList_ofList]
    refine Chars.lines_of_not_mem (Chars.not_mem_truncate (htext _) (by decide) _)
      (Chars.truncate_ne_nil ?_ (by decide))
    simp
  rw [Text.lines, hchars, List.map_singleton, String.ofList_toList]

namespace Conversation

variable {α β : Type} {limit : Nat} {system : Option String} {turns : List Turn}

/-! ## The newest of a list -/

theorem last_append (n : Nat) (xs ys : List α) : last n (last n xs ++ ys) = last n (xs ++ ys) := by
  simp only [last, List.length_append, List.length_drop, List.drop_append, List.drop_drop]
  congr 1 <;> congr 1 <;> omega

theorem length_last (n : Nat) (xs : List α) : (last n xs).length = min n xs.length := by
  rw [last, List.length_drop]
  omega

theorem map_last (f : α → β) (n : Nat) (xs : List α) : (last n xs).map f = last n (xs.map f) := by
  rw [last, last, List.map_drop, List.length_map]

theorem take_append_last (n : Nat) (xs : List α) : xs.take (xs.length - n) ++ last n xs = xs :=
  List.take_append_drop _ xs

theorem last_min_length (n : Nat) (xs : List α) : last (min xs.length n) xs = last n xs := by
  rw [last, last]
  congr 1
  omega

/-! ## Turn by turn -/

/-- A conversation after some turns: the newest of them, and the lines for the newest of the
others. -/
def after (limit : Nat) (system : Option String) (turns : List Turn) : Conversation where
  limit := limit
  system := system
  digests := last limit ((turns.take (turns.length - limit)).map Turn.digest)
  turns := last limit turns
  count := turns.length

/-- What falls out of the newest turns with one more of them are the older ones that were not among
the older ones before. -/
theorem take_concat (limit : Nat) (turns : List Turn) (t : Turn) :
    (turns ++ [t]).take ((turns ++ [t]).length - limit) =
      turns.take (turns.length - limit) ++
        (last limit turns ++ [t]).take ((last limit turns ++ [t]).length - limit) := by
  have hlength : (turns ++ [t]).length - limit =
      (turns.take (turns.length - limit)).length +
        ((last limit turns ++ [t]).length - limit) := by
    simp only [List.length_append, List.length_take, length_last]
    omega
  have hsplit : turns ++ [t] =
      turns.take (turns.length - limit) ++ (last limit turns ++ [t]) := by
    rw [← List.append_assoc, take_append_last]
  rw [hlength, hsplit, List.take_length_add_append]

/-- **One more turn.** -/
theorem push_after (limit : Nat) (system : Option String) (turns : List Turn) (t : Turn) :
    (after limit system turns).push t = after limit system (turns ++ [t]) := by
  simp only [push, after, mk.injEq, true_and]
  refine ⟨?_, last_append limit turns [t], by simp⟩
  rw [last_append, take_concat limit turns t, List.map_append]

/-- **Any number of turns.** -/
theorem foldl_push (limit : Nat) (system : Option String) (turns more : List Turn) :
    more.foldl push (after limit system turns) = after limit system (turns ++ more) := by
  induction more generalizing turns with
  | nil => rw [List.append_nil, List.foldl_nil]
  | cons t more ih => rw [List.foldl_cons, push_after, ih, List.append_assoc, List.singleton_append]

theorem after_nil (limit : Nat) (content : String) :
    (new limit).instruct content = after (max limit 1) (some content) [] := by
  simp [new, instruct, after, last]

/-! ## What is sent -/

/-- The summary of what is summed up item by item. -/
theorem digestText_map (f : α → String) (xs : List α) :
    digestText (xs.map f) = "Summary of earlier exchanges in this session:\n" ++
      String.join (xs.map fun x => "- " ++ f x ++ "\n") :=
  congrArg (fun lines => "Summary of earlier exchanges in this session:\n" ++ String.join lines)
    List.map_map

/-- The messages that a conversation of at most `limit` whole turns sends after some turns. -/
def messagesAfter (limit : Nat) (content : String) (turns : List Turn) (next : String) :
    List Message :=
  .system content ::
    (if limit < turns.length then
      [.system (digestText
        ((last (min (turns.length - limit) limit) (turns.take (turns.length - limit))).map
          Turn.digest))]
    else []) ++
    (last (min turns.length limit) turns).flatMap (fun t => [.user t.asked, .assistant t.answered]) ++
    [.user next]

theorem digests_after (limit : Nat) (system : Option String) (turns : List Turn) :
    (after limit system turns).digests =
      (last (min (turns.length - limit) limit) (turns.take (turns.length - limit))).map
        Turn.digest := by
  have holder : (turns.take (turns.length - limit)).length = turns.length - limit := by
    rw [List.length_take]
    omega
  have hlast := last_min_length limit (turns.take (turns.length - limit))
  rw [holder] at hlast
  rw [hlast, map_last]
  rfl

theorem isEmpty_digests_after (hlimit : 0 < limit) :
    (after limit system turns).digests.isEmpty = !decide (limit < turns.length) := by
  have hlength : (after limit system turns).digests.length = min limit (turns.length - limit) := by
    rw [digests_after, List.length_map, length_last, List.length_take]
    omega
  rw [Bool.eq_iff_iff, List.isEmpty_iff_length_eq_zero, hlength, Bool.not_eq_true',
    decide_eq_false_iff_not]
  omega

/-- **What is sent next,** whatever was said before. -/
theorem messagesFor_after (hlimit : 0 < limit) (content : String) (turns : List Turn)
    (next : String) :
    (after limit (some content) turns).messagesFor next =
      messagesAfter limit content turns next := by
  rw [messagesFor, context, isEmpty_digests_after hlimit, digests_after, messagesAfter,
    last_min_length]
  by_cases hlong : limit < turns.length
  · simp [hlong, after]
  · simp [hlong, after]

theorem length_said (turns : List Turn) :
    (turns.flatMap fun t => [Message.user t.asked, .assistant t.answered]).length =
      2 * turns.length := by
  induction turns with
  | nil => rfl
  | cons t turns ih =>
    rw [List.flatMap_cons, List.length_append, ih]
    simp only [List.length_cons, List.length_nil]
    omega

/-- **What is sent stays bounded.** -/
theorem length_messagesAfter_le (limit : Nat) (content : String) (turns : List Turn)
    (next : String) : (messagesAfter limit content turns next).length ≤ 2 * limit + 3 := by
  rw [messagesAfter, List.length_append, List.length_append, length_said, length_last]
  split
  · simp only [List.length_cons, List.length_nil]
    omega
  · simp only [List.length_cons, List.length_nil]
    omega

end Conversation
end RemapSynth.Chat
