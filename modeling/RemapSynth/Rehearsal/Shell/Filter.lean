/-
Sources and filters of bytes: counting, taking the front, and replacing
bytes of one set by bytes of another.
-/
import RemapSynth.Rehearsal.Shell.Printed
import RemapSynth.Text.Numeral

namespace RemapSynth.Rehearsal.Shell

/-- The whole numbers from one to another. -/
def countLines (low high : Nat) : List Char :=
  (List.range (high + 1 - low)).flatMap fun i => Nat.toDigits 10 (low + i) ++ ['\n']

/-- The bytes of the first lines, as many as `count`. -/
def firstLines : (count : Nat) → List UInt8 → List UInt8
  | 0, _ => []
  | _, [] => []
  | count + 1, b :: bytes => b :: firstLines (if b = 10 then count else count + 1) bytes
termination_by _ bytes => bytes.length

/-- What a filter keeps of its input: `head` with `-c`, `-n` or a count of its own. -/
def headOf (input : List UInt8) : List (List Char) → List UInt8
  | ['-', 'c'] :: count :: _ => input.take ((Chars.readNat? count).getD 0)
  | ['-', 'n'] :: count :: _ => firstLines ((Chars.readNat? count).getD 0) input
  | ('-' :: 'c' :: count) :: _ => input.take ((Chars.readNat? count).getD 0)
  | ('-' :: 'n' :: count) :: _ => firstLines ((Chars.readNat? count).getD 0) input
  | ('-' :: count) :: _ => firstLines ((Chars.readNat? count).getD 10) input
  | _ => firstLines 10 input

/-- The bytes that a set of characters names: ranges with a dash, and characters behind a
backslash. -/
def setBytes : Nat → List Char → List UInt8
  | 0, _ => []
  | fuel + 1, '\\' :: c :: s =>
    match controlOf? c with
    | some byte => byte :: setBytes fuel s
    | none =>
      let digits := octalDigits (c :: s)
      if digits.isEmpty then bytesOf [c] ++ setBytes fuel s
      else UInt8.ofNat (valueOf digits) :: setBytes fuel ((c :: s).drop digits.length)
  | fuel + 1, a :: '-' :: b :: s =>
    (List.range (b.toNat + 1 - a.toNat)).map (fun i => UInt8.ofNat (a.toNat + i))
      ++ setBytes fuel s
  | fuel + 1, c :: s => bytesOf [c] ++ setBytes fuel s
  | _ + 1, [] => []

/-- The byte that stands in for another when the bytes of one set become those of a second, whose
last byte stands for all that it lacks. -/
def substituted (old new : List UInt8) (b : UInt8) : UInt8 :=
  match old.findIdx? (· == b) with
  | some i => (new[i]?).getD (new.getLast?.getD b)
  | none => b

/-- The most bytes an endless source gives. -/
def sourceBytes : Nat := 400000

end RemapSynth.Rehearsal.Shell
