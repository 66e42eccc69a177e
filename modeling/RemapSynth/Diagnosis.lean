/-
What kind of failure an error message tells of.

A compiler marks its messages with a tag such as `error[E103]`; the checks
made before and after compiling begin theirs with a fixed word. The tag
decides before the word, the word before single keywords in the text.
-/
import RemapSynth.Text.Blank
import RemapSynth.Text.Search
import RemapSynth.Text.Lowercase
import RemapSynth.Text.Numeral

namespace RemapSynth

/-- The kind of a validation failure. -/
inductive Diagnosis
  /-- E103: the result of a fallible call is used and its error is not handled. -/
  | unhandledFallible
  /-- E105: a call of a function that does not exist. -/
  | undefinedFunction
  /-- E110: a fallible expression as the condition of an `if`. -/
  | falliblePredicate
  /-- E203: the program is not well-formed. -/
  | malformed
  /-- E620: an abort in a program that must not fail. -/
  | abortInInfallible
  /-- E651: a fallback behind an expression that cannot fail. -/
  | unnecessaryCoalesce
  /-- Any other number of the compiler. -/
  | compiler (number : Nat)
  | rejectedConstruct
  | fieldConflict
  | timeout
  | unknown
  deriving Repr, DecidableEq

namespace Diagnosis

/-- The word a message about rejected functions begins with. -/
def rejectedStart : String := "REJECTED:"

/-- The word a message about reserved fields begins with. -/
def conflictStart : String := "FIELD_CONFLICT:"

/-- The word a message about a program that does not compile begins with. -/
def compileStart : String := "SYNTAX:"

/-- The word a message about a failed run begins with. -/
def runStart : String := "PROCESSING:"

/-- The word a message about an engine that took too long begins with. -/
def timeoutStart : String := "TIMEOUT:"

/-- The largest number a compiler code can have. -/
def maxNumber : Nat := 65535

/-- The kind that a compiler number stands for. -/
def ofNumber : Nat → Diagnosis
  | 103 => unhandledFallible
  | 105 => undefinedFunction
  | 110 => falliblePredicate
  | 203 => malformed
  | 620 => abortInInfallible
  | 651 => unnecessaryCoalesce
  | n => compiler n

/-- The compiler number of a kind that has one. -/
def number? : Diagnosis → Option Nat
  | unhandledFallible => some 103
  | undefinedFunction => some 105
  | falliblePredicate => some 110
  | malformed => some 203
  | abortInInfallible => some 620
  | unnecessaryCoalesce => some 651
  | compiler n => some n
  | rejectedConstruct | fieldConflict | timeout | unknown => none

/-- A few words on the kind, for people. -/
def description : Diagnosis → String
  | unhandledFallible => "unhandled fallible operation"
  | undefinedFunction => "undefined function"
  | falliblePredicate => "fallible predicate"
  | malformed => "syntax error"
  | abortInInfallible => "abort in infallible context"
  | unnecessaryCoalesce => "redundant error coalescing"
  | compiler _ => "compiler error"
  | rejectedConstruct => "rejected construct"
  | fieldConflict => "reserved field conflict"
  | timeout => "engine timeout"
  | unknown => "unknown"

/-- The name a kind goes by in prompts, reports and data: `E` and its number, or a word. -/
def name : Diagnosis → String
  | rejectedConstruct => "REJECTED"
  | fieldConflict => "FIELD_CONFLICT"
  | timeout => "TIMEOUT"
  | unknown => "UNKNOWN"
  | unhandledFallible => "E103"
  | undefinedFunction => "E105"
  | falliblePredicate => "E110"
  | malformed => "E203"
  | abortInInfallible => "E620"
  | unnecessaryCoalesce => "E651"
  | compiler n => "E" ++ Nat.repr n

/-- The number behind an `E`. -/
def numberOfName? (name : List Char) : Option Nat :=
  match name with
  | 'E' :: digits => Chars.readUpTo? maxNumber digits
  | _ => none

/-- The kind that goes by a name; blanks around it do not matter, and a name nobody knows stands
for `unknown`. -/
def ofName (s : String) : Diagnosis :=
  let name := Chars.trim s.toList
  match numberOfName? name with
  | some n => ofNumber n
  | none =>
    if name = "REJECTED".toList then rejectedConstruct
    else if name = "FIELD_CONFLICT".toList then fieldConflict
    else if name = "TIMEOUT".toList then timeout
    else unknown

/-- How a compiler tag opens. -/
def tagOpener : List Char := "error[E".toList

/-- The digits of a complete tag at the front of a text. -/
def tagHere? (s : List Char) : Option (List Char) :=
  match Chars.afterStart? tagOpener s with
  | none => none
  | some rest =>
    let digits := rest.takeWhile Text.isDigit
    match rest.dropWhile Text.isDigit with
    | ']' :: _ => if digits.isEmpty then none else some digits
    | _ => none

/-- The digits of the first complete tag in a text. -/
def firstTag? : List Char → Option (List Char)
  | [] => none
  | c :: s =>
    match tagHere? (c :: s) with
    | some digits => some digits
    | none => firstTag? s

/-- The number of the first complete tag, when it is written in ASCII and is no larger than a
compiler number. A later tag never stands in for it. -/
def taggedNumber? (s : List Char) : Option Nat :=
  ((firstTag? s).bind Chars.readNat?).filter (· ≤ maxNumber)

/-- The kind told by the word a message begins with. -/
def ofStart? (s : List Char) : Option Diagnosis :=
  let s := Chars.trimStart s
  if rejectedStart.toList.isPrefixOf s || "PERFORMANCE".toList.isPrefixOf s then
    some rejectedConstruct
  else if conflictStart.toList.isPrefixOf s then some fieldConflict
  else if timeoutStart.toList.isPrefixOf s then some timeout
  else none

/-- The kind told by the keywords of a message in lower case. -/
def ofKeywords (s : List Char) : Diagnosis :=
  let lower := Chars.toLower s
  if Chars.contains lower "syntax".toList then malformed
  else if Chars.contains lower "coalescing".toList then unnecessaryCoalesce
  else if Chars.contains lower "fallible".toList then unhandledFallible
  else unknown

/-- The kind of failure a message tells of. -/
def ofChars (s : List Char) : Diagnosis :=
  match taggedNumber? s with
  | some n => ofNumber n
  | none => (ofStart? s).getD (ofKeywords s)

/-- The kind of failure a message tells of. -/
def ofMessage (message : String) : Diagnosis := ofChars message.toList

end Diagnosis
end RemapSynth
