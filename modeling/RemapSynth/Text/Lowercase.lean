/-
The full lower-case mapping of Unicode. All but two code points map one to
one: a capital I with dot becomes two, and a capital sigma takes its final
form at the end of a word.
-/
import RemapSynth.Text.Case
import RemapSynth.Text.Word

namespace RemapSynth
namespace Text

/-- The one-to-one lower-case form of a code point. -/
def lowerCodePoint (n : Nat) : Nat :=
  match lowercaseRuns.find? fun (first, last, step, _) =>
      first ≤ n && n ≤ last && (n - first) % step == 0 with
  | some (_, _, _, shift) => (n + shift).toNat
  | none => n

/-- The lower-case form of one character, where it does not depend on its neighbours. -/
def lowerChar (c : Char) : List Char :=
  if c.toNat < 128 then
    if 65 ≤ c.toNat && c.toNat ≤ 90 then [Char.ofNat (c.toNat + 32)] else [c]
  else if c = 'İ' then ['i', Char.ofNat 0x307]
  else [Char.ofNat (lowerCodePoint c.toNat)]

/-- A cased letter. -/
def isCased (c : Char) : Bool :=
  if c.toNat < 128 then isAsciiLetter c else inRanges casedRanges c.toNat

/-- A character that is passed over when the neighbours of a sigma are looked at. -/
def isCaseIgnorable (c : Char) : Bool :=
  if c.toNat < 128 then c == '\'' || c == '.' || c == ':' || c == '^' || c.toNat == 0x60
  else inRanges caseIgnorableRanges c.toNat

/-- Whether the first character that is not passed over is cased. -/
def meetsCased (s : List Char) : Bool :=
  match s.dropWhile isCaseIgnorable with
  | c :: _ => isCased c
  | [] => false

end Text

namespace Chars

open Text

/-- Lower case with the characters before `s`, nearest first, known. -/
def lowerAfter (before : List Char) : List Char → List Char
  | [] => []
  | c :: s =>
    let lower :=
      if c = 'Σ' then [if meetsCased before && !meetsCased s then 'ς' else 'σ'] else lowerChar c
    lower ++ lowerAfter (c :: before) s

def toLower (s : List Char) : List Char := lowerAfter [] s

end Chars

namespace Text

def toLower (s : String) : String := .ofList (Chars.toLower s.toList)

end Text
end RemapSynth
