/-
Source text quoted inside an error message: program lines behind a line
number and a bar, as a compiler shows them, and snippets between backticks.
-/
import RemapSynth.Text.Line
import RemapSynth.Text.Word

namespace RemapSynth
namespace Chars

/-- The mark around a snippet in running text. -/
def backtick : Char := Char.ofNat 0x60

/-- The bar between a line number and the program line it numbers. -/
def bar : Char := '│'

/-- The program line that a line of a message shows: behind blanks, a line number, blanks and a
bar. Trimmed, and none when nothing is left. -/
def quotedLine? (line : List Char) : Option (List Char) :=
  let numbered := trimStart line
  if (numbered.takeWhile Text.isDigit).isEmpty then none
  else
    match trimStart (numbered.dropWhile Text.isDigit) with
    | c :: shown =>
      if c = bar ∧ !(trim shown).isEmpty then some (trim shown) else none
    | [] => none

/-- The program lines a message shows, in order. -/
def quotedLines (message : List Char) : List (List Char) := (lines message).filterMap quotedLine?

/-- What is left behind a run of characters and the one that ends it is no longer than it all. -/
theorem length_drop_dropWhile_le (p : Char → Bool) (s : List Char) :
    ((s.dropWhile p).drop 1).length ≤ s.length :=
  Nat.le_trans (List.drop_suffix 1 _).length_le (List.dropWhile_suffix p).length_le

/-- The snippets between backticks that hold characters of the class `inside` only, in order. A
backtick that opens no snippet is passed over; one that closes a snippet opens none. -/
def snippets (inside : Char → Bool) : List Char → List (List Char)
  | [] => []
  | c :: s =>
    if c = backtick then
      let body := s.takeWhile inside
      if (s.dropWhile inside).head? = some backtick ∧ !body.isEmpty then
        body :: snippets inside ((s.dropWhile inside).drop 1)
      else snippets inside s
    else snippets inside s
termination_by s => s.length
decreasing_by
  · exact Nat.lt_succ_of_le (length_drop_dropWhile_le inside s)
  · exact Nat.lt_succ_self _
  · exact Nat.lt_succ_self _

end Chars
end RemapSynth
