/-
Looking for one text inside another: the first occurrence, and replacing
it. Nothing is ever matched inside an occurrence that was already taken.
-/
namespace RemapSynth
namespace Chars

/-- What follows `needle` at the front of `s`. -/
def afterStart? (needle s : List Char) : Option (List Char) :=
  if needle.isPrefixOf s then some (s.drop needle.length) else none

/-- The text before and after the first occurrence of `needle`. -/
def breakOn (needle : List Char) : List Char → Option (List Char × List Char)
  | [] => if needle.isEmpty then some ([], []) else none
  | c :: s =>
    match afterStart? needle (c :: s) with
    | some after => some ([], after)
    | none => (breakOn needle s).map fun (before, after) => (c :: before, after)

def contains (s needle : List Char) : Bool := (breakOn needle s).isSome

/-- The first occurrence of `needle` replaced by `new`. -/
def replaceFirst (needle new s : List Char) : List Char :=
  match breakOn needle s with
  | some (before, after) => before ++ new ++ after
  | none => s

/-- `replaceAll` with `skip` characters of an occurrence still to pass over. -/
def replaceFrom (needle new : List Char) : Nat → List Char → List Char
  | _, [] => []
  | skip + 1, _ :: s => replaceFrom needle new skip s
  | 0, c :: s =>
    if !needle.isEmpty && needle.isPrefixOf (c :: s) then
      new ++ replaceFrom needle new (needle.length - 1) s
    else c :: replaceFrom needle new 0 s

/-- Every occurrence of `needle` replaced by `new`, from left to right; an empty needle has no
occurrences. -/
def replaceAll (needle new s : List Char) : List Char := replaceFrom needle new 0 s

end Chars

namespace Text

def contains (s needle : String) : Bool := Chars.contains s.toList needle.toList

def startsWith (s start : String) : Bool := start.toList.isPrefixOf s.toList

def endsWith (s tail : String) : Bool := tail.toList.isSuffixOf s.toList

/-- The first occurrence of `needle` replaced by `new`. -/
def replaceFirst (s needle new : String) : String :=
  .ofList (Chars.replaceFirst needle.toList new.toList s.toList)

/-- Every occurrence of `needle` replaced by `new`, from left to right. -/
def replaceAll (s needle new : String) : String :=
  .ofList (Chars.replaceAll needle.toList new.toList s.toList)

end Text
end RemapSynth
