/-
Assignments to fields of the event: a dot where a path may begin, names
joined by single dots, blanks, and an equals sign that has a character
other than an equals sign behind it.

A dot begins a path at the start of the line, or behind a character that is
no word character and none of `. ! = < >`. The search goes on behind the
character that follows the equals sign.
-/
import RemapSynth.Policy.Comment
import RemapSynth.Text.Word

namespace RemapSynth.Policy

/-- Whether a dot behind `c` cannot begin a path. -/
def blocksPath (c : Char) : Bool :=
  Text.isWord c || c == '.' || c == '!' || c == '=' || c == '<' || c == '>'

/-- The segments behind a dot, as many as follow each other, and the rest. -/
def segments (s : List Char) : List (List Char) × List Char :=
  if (s.takeWhile Text.isWord).isEmpty then ([], s)
  else
    match h : s.dropWhile Text.isWord with
    | '.' :: rest =>
      have : rest.length < s.length := by
        have := (List.dropWhile_suffix Text.isWord (l := s)).length_le
        simp [h] at this; omega
      match segments rest with
      | ([], _) => ([s.takeWhile Text.isWord], '.' :: rest)
      | (more, after) => (s.takeWhile Text.isWord :: more, after)
    | rest => ([s.takeWhile Text.isWord], rest)
termination_by s.length

/-- The path that is assigned to, read behind its first dot, and what follows the assignment. -/
def target? (s : List Char) : Option (List (List Char) × List Char) :=
  match segments s with
  | ([], _) => none
  | (path, rest) =>
    match Chars.trimStart rest with
    | '=' :: c :: after => if c = '=' then none else some (path, after)
    | _ => none

/-- The path that is assigned to from the first character of `s` on, or right behind it. -/
def assignmentHere? (atStart : Bool) (s : List Char) : Option (List (List Char) × List Char) :=
  match s with
  | c :: rest =>
    if atStart ∧ c = '.' then target? rest
    else if blocksPath c then none
    else
      match rest with
      | '.' :: rest => target? rest
      | _ => none
  | [] => none

/-- Reading a path leaves no more than there was. -/
theorem segments_length (s : List Char) : (segments s).2.length ≤ s.length := by
  fun_induction segments s with
  | case1 => simp
  | case2 s _ rest h _ _ _ =>
    have := (List.dropWhile_suffix Text.isWord (l := s)).length_le
    simp_all
  | case3 s _ rest h _ more after eq _ ih =>
    have := (List.dropWhile_suffix Text.isWord (l := s)).length_le
    simp_all; omega
  | case4 s => exact (List.dropWhile_suffix Text.isWord (l := s)).length_le

/-- What follows an assignment's sign is shorter than what the path began. -/
theorem target?_length {s : List Char} {path : List (List Char)} {after : List Char}
    (h : target? s = some (path, after)) : after.length < s.length := by
  unfold target? at h
  have hs := segments_length s
  split at h
  · cases h
  · rename_i rest _ heq
    rw [heq] at hs
    have hd := (List.dropWhile_suffix Text.isBlank (l := rest)).length_le
    split at h
    · rename_i hb
      unfold Chars.trimStart at hb
      rw [hb] at hd
      split at h
      · cases h
      · cases h; simp at hd hs; omega
    · cases h

/-- What follows an assignment is shorter than the line it was found in. -/
theorem assignmentHere?_length {atStart : Bool} {s : List Char} {path : List (List Char)}
    {after : List Char} (h : assignmentHere? atStart s = some (path, after)) :
    after.length < s.length := by
  unfold assignmentHere? at h
  split at h
  · split at h
    · have := target?_length h; simp; omega
    · split at h
      · cases h
      · split at h
        · have := target?_length h; simp; omega
        · cases h
  · cases h

/-- The paths assigned to in the rest of a line, in order. -/
def assignmentsFrom (atStart : Bool) (s : List Char) : List (List (List Char)) :=
  match h : assignmentHere? atStart s with
  | some (path, after) =>
    have := assignmentHere?_length h
    path :: assignmentsFrom false after
  | none =>
    match s with
    | [] => []
    | _ :: rest => assignmentsFrom false rest
termination_by s.length

/-- The paths assigned to in a line, in order. -/
def assignments (line : List Char) : List (List (List Char)) := assignmentsFrom true line

/-- The paths assigned to in a program, in order, with repetitions. -/
def assignedPaths (program : List Char) : List (List (List Char)) :=
  (codeLines program).flatMap assignments

end RemapSynth.Policy
