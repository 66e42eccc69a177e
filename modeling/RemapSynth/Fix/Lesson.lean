/-
Rules learned from error messages. A message that names the construct which
failed teaches a rule for that very construct.
-/
import RemapSynth.Fix.Rule
import RemapSynth.Diagnosis
import RemapSynth.Text.Snippet

namespace RemapSynth.Fix

/-- A rule, and the construct of a program that it was learned from. -/
structure Lesson where
  construct : String
  rule : Rule

/-- A quoted line that holds a `return` and is no comment is to be commented out. -/
def returnLesson? (line : List Char) : Option Lesson :=
  if Chars.contains line "return".toList ∧ line.head? ≠ some '#' then
    let text := String.ofList line
    some ⟨text, "learned_comment_out", .line text, .commentOut, []⟩
  else none

/-- What a failing call may fall back on. -/
def fallback? (call : List Char) : Option String :=
  if "split(".toList.isPrefixOf call then some "[]"
  else if "parse_".toList.isPrefixOf call || "to_".toList.isPrefixOf call then some "null"
  else none

/-- A snippet that is a call which can fail is to be wrapped with a fallback, unless it is wrapped
already or has a fallback of its own. -/
def callLesson? (snippet : List Char) : Option Lesson :=
  let call := Chars.trim snippet
  if call.getLast? ≠ some ')' ∨ Chars.contains call "??".toList then none
  else
    (fallback? call).map fun fallback =>
      let text := String.ofList call
      let wrapped := "(" ++ text ++ " ?? " ++ fallback ++ ")"
      ⟨text, "learned_wrap_fallible", .contains text, .replace text wrapped,
        [wrapped, text ++ " ??"]⟩

/-- What a message of a given kind teaches, in the order of the constructs it names. -/
def lessons (d : Diagnosis) (message : String) : List Lesson :=
  let s := message.toList
  match d with
  | .malformed =>
    if Chars.contains (Chars.toLower s) "unexpected".toList then
      (Chars.quotedLines s).filterMap returnLesson?
    else []
  | .unhandledFallible => (Chars.snippets (· != Chars.backtick) s).filterMap callLesson?
  | _ => []

end RemapSynth.Fix
