/-
Shortening a text to a number of characters.
-/
namespace RemapSynth
namespace Chars

/-- `s` when it has at most `max` characters, else its front with an ellipsis in the last three
places; a limit of three or less leaves no room for one. -/
def truncate (s : List Char) (max : Nat) : List Char :=
  if s.length ≤ max then s
  else if max ≤ 3 then s.take max
  else s.take (max - 3) ++ ['.', '.', '.']

/-- The last `max` characters. -/
def tail (s : List Char) (max : Nat) : List Char := s.drop (s.length - max)

end Chars

namespace Text

def truncate (s : String) (max : Nat) : String := .ofList (Chars.truncate s.toList max)

def tail (s : String) (max : Nat) : String := .ofList (Chars.tail s.toList max)

end Text
end RemapSynth
