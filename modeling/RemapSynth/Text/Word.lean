/-
Classes of characters in the Unicode sense: word characters, decimal
digits, numbers and letters, and the word boundary between two positions.
What is matched in a program text or a message goes by Unicode 16 (`isWord`,
`isDigit`), letters and numbers on their own go by Unicode 17
(`isAlphabetic`, `isNumeric`).

ASCII is decided by its own ranges first, so a program text in ASCII never
looks into a table.
-/
import RemapSynth.Text.Alphabetic
import RemapSynth.Text.Mark
import RemapSynth.Text.Number

namespace RemapSynth
namespace Text

/-- Whether a code point lies in one of the closed ranges. -/
def inRanges (ranges : List (Nat × Nat)) (n : Nat) : Bool :=
  ranges.any fun (first, last) => first ≤ n && n ≤ last

/-- `0` to `9`. -/
def isAsciiDigit (c : Char) : Bool := 48 ≤ c.toNat && c.toNat ≤ 57

/-- `A` to `Z` and `a` to `z`. -/
def isAsciiLetter (c : Char) : Bool :=
  (65 ≤ c.toNat && c.toNat ≤ 90) || (97 ≤ c.toNat && c.toNat ≤ 122)

/-- A letter in the wide sense: the property Alphabetic of Unicode 17. -/
def isAlphabetic (c : Char) : Bool :=
  if c.toNat < 128 then isAsciiLetter c
  else inRanges alphabeticRanges c.toNat || inRanges laterAlphabeticRanges c.toNat

/-- A decimal digit of any script in Unicode 16. -/
def isDigit (c : Char) : Bool :=
  if c.toNat < 128 then isAsciiDigit c else inRanges decimalDigitRanges c.toNat

/-- A number of any kind in Unicode 17: decimal digits, letter-like numbers, fractions,
superscripts. -/
def isNumeric (c : Char) : Bool :=
  isDigit c || (128 ≤ c.toNat &&
    (inRanges otherNumberRanges c.toNat || inRanges laterNumberRanges c.toNat))

def isAlphanumeric (c : Char) : Bool := isAlphabetic c || isNumeric c

/-- The connecting punctuation beside the underscore, and the two join controls. -/
def wordJoinerRanges : List (Nat × Nat) :=
  [(0x200c, 0x200d), (0x203f, 0x2040), (0x2054, 0x2054), (0xfe33, 0xfe34), (0xfe4d, 0xfe4f),
    (0xff3f, 0xff3f)]

/-- A word character of Unicode 16: letters, marks, decimal digits, connecting punctuation, join
controls. -/
def isWord (c : Char) : Bool :=
  if c.toNat < 128 then isAsciiLetter c || isAsciiDigit c || c == '_'
  else inRanges alphabeticRanges c.toNat || inRanges markRanges c.toNat ||
    inRanges decimalDigitRanges c.toNat || inRanges wordJoinerRanges c.toNat

/-- Whether a neighbour exists and is a word character. -/
def isWordAt : Option Char → Bool
  | some c => isWord c
  | none => false

/-- Between two neighbours, of which either may be missing at the text's ends, lies a word
boundary when exactly one is a word character. -/
def isWordBoundary (before after : Option Char) : Bool := isWordAt before != isWordAt after

end Text
end RemapSynth
