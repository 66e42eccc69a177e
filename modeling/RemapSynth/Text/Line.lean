/-
Lines. A text is cut at line feeds; a carriage return before the line feed
belongs to the line's end, and the empty piece after a last line feed is no
line. A carriage return anywhere else is an ordinary character.
-/
import RemapSynth.Text.Blank

namespace RemapSynth
namespace Chars

/-- The pieces of `s` between the occurrences of `sep`: always one more than there are
occurrences. -/
def splitAt (sep : Char) : List Char → List (List Char)
  | [] => [[]]
  | c :: s =>
    if c = sep then [] :: splitAt sep s
    else
      match splitAt sep s with
      | [] => [[c]]
      | piece :: pieces => (c :: piece) :: pieces

/-- `piece` without one carriage return at its end. -/
def dropReturn (piece : List Char) : List Char :=
  if piece.getLast? = some '\r' then piece.dropLast else piece

/-- Lines out of the pieces between line feeds: the last piece has no line feed behind it, so it
is kept as it is, or is no line when it is empty. -/
def linesOfPieces : List (List Char) → List (List Char)
  | [] => []
  | [last] => if last.isEmpty then [] else [last]
  | piece :: pieces => dropReturn piece :: linesOfPieces pieces

def lines (s : List Char) : List (List Char) := linesOfPieces (splitAt '\n' s)

/-- The pieces with `sep` between any two neighbours. -/
def joinWith (sep : List Char) : List (List Char) → List Char
  | [] => []
  | [piece] => piece
  | piece :: pieces => piece ++ sep ++ joinWith sep pieces

end Chars

namespace Text

def lines (s : String) : List String := (Chars.lines s.toList).map String.ofList

/-- The pieces between line feeds, with no rule for carriage returns or a last empty piece. -/
def pieces (s : String) : List String := (Chars.splitAt '\n' s.toList).map String.ofList

def joinWith (sep : String) : List String → String
  | [] => ""
  | [text] => text
  | text :: texts => text ++ sep ++ joinWith sep texts

end Text
end RemapSynth
