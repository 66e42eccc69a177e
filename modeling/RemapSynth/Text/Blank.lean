/-
White space and what is cut at it: trimming, and splitting into words.

The blanks are the 25 code points of the Unicode property White_Space, so
a no-break space or a line separator is trimmed like a space.
-/
namespace RemapSynth

/-- The Unicode property White_Space. -/
def Text.isBlank (c : Char) : Bool :=
  let n := c.toNat
  (0x9 ≤ n && n ≤ 0xd) || n == 0x20 || n == 0x85 || n == 0xa0 || n == 0x1680 ||
    (0x2000 ≤ n && n ≤ 0x200a) || n == 0x2028 || n == 0x2029 || n == 0x202f || n == 0x205f ||
    n == 0x3000

namespace Chars

open Text

/-- The characters from the first that is no blank. -/
def trimStart (s : List Char) : List Char := s.dropWhile isBlank

/-- The characters up to the last that is no blank. -/
def trimEnd (s : List Char) : List Char := (s.reverse.dropWhile isBlank).reverse

/-- The characters between the first and the last that are no blanks. -/
def trim (s : List Char) : List Char := trimEnd (trimStart s)

/-- Whether nothing but blanks is left. -/
def isBlank (s : List Char) : Bool := s.all Text.isBlank

/-- `s` without leading and trailing characters of the class `p`. -/
def trimMatches (p : Char → Bool) (s : List Char) : List Char :=
  ((s.dropWhile p).reverse.dropWhile p).reverse

/-- The maximal runs of characters that are no blanks, in order. -/
def words (s : List Char) : List (List Char) :=
  let step := fun (c : Char) (acc : List Char × List (List Char)) =>
    if Text.isBlank c then ([], if acc.1.isEmpty then acc.2 else acc.1 :: acc.2)
    else (c :: acc.1, acc.2)
  let (first, rest) := s.foldr step ([], [])
  if first.isEmpty then rest else first :: rest

end Chars

namespace Text

def trimStart (s : String) : String := .ofList (Chars.trimStart s.toList)

def trimEnd (s : String) : String := .ofList (Chars.trimEnd s.toList)

def trim (s : String) : String := .ofList (Chars.trim s.toList)

def isBlankText (s : String) : Bool := Chars.isBlank s.toList

end Text
end RemapSynth
