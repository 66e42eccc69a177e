/-
The bytes that a format or an echo prints.
-/
import RemapSynth.Text.Line

namespace RemapSynth.Rehearsal.Shell

def bytesOf (s : List Char) : List UInt8 := (String.ofList s).toUTF8.toList

/-- The control character that a letter behind a backslash stands for. -/
def controlOf? (c : Char) : Option UInt8 :=
  ([('n', 10), ('t', 9), ('r', 13), ('\\', 92), ('a', 7), ('b', 8), ('f', 12), ('v', 11)].find?
    (·.1 == c)).map (UInt8.ofNat ·.2)

def octalDigit? (c : Char) : Option Nat :=
  if 48 ≤ c.toNat && c.toNat ≤ 55 then some (c.toNat - 48) else none

/-- The octal digits at the front of a text, three at most. -/
def octalDigits (s : List Char) : List Nat :=
  ((s.take 3).takeWhile fun c => (octalDigit? c).isSome).filterMap octalDigit?

def valueOf (digits : List Nat) : Nat := digits.foldl (fun n d => n * 8 + d) 0

/-- The characters a backslash stands for in a format; an octal number stands for a byte. -/
def formatBytes : Nat → List Char → List (List Char) → List UInt8 × List (List Char)
  | 0, _, arguments => ([], arguments)
  | _ + 1, [], arguments => ([], arguments)
  | fuel + 1, '\\' :: c :: s, arguments =>
    let digits := octalDigits (c :: s)
    if !digits.isEmpty then
      let (rest, arguments) := formatBytes fuel ((c :: s).drop digits.length) arguments
      (UInt8.ofNat (valueOf digits) :: rest, arguments)
    else
      let (rest, arguments) := formatBytes fuel s arguments
      match controlOf? c with
      | some byte => (byte :: rest, arguments)
      | none => (bytesOf ['\\', c] ++ rest, arguments)
  | fuel + 1, '%' :: c :: s, arguments =>
    if c = '%' then
      let (rest, arguments) := formatBytes fuel s arguments
      (37 :: rest, arguments)
    else
      let (rest, left) := formatBytes fuel s (arguments.drop 1)
      (bytesOf (arguments.head?.getD (if c = 'd' then ['0'] else [])) ++ rest, left)
  | fuel + 1, c :: s, arguments =>
    let (rest, arguments) := formatBytes fuel s arguments
    (bytesOf [c] ++ rest, arguments)

/-- What an echo of a text prints, with `final` behind it: a backslash and a letter stand for one
character, a backslash, a nought and up to three octal digits for a byte, and a backslash with
the letter c ends it all. -/
def echoBytes (final : List UInt8) : Nat → List Char → List UInt8
  | 0, _ => final
  | fuel + 1, '\\' :: c :: s =>
    if c = 'c' then []
    else if c = '0' then
      let digits := octalDigits s
      UInt8.ofNat (valueOf digits) :: echoBytes final fuel (s.drop digits.length)
    else
      match controlOf? c with
      | some byte => byte :: echoBytes final fuel s
      | none => bytesOf ['\\', c] ++ echoBytes final fuel s
  | fuel + 1, c :: s => bytesOf [c] ++ echoBytes final fuel s
  | _ + 1, [] => final

/-- The bytes an echo of some words prints. -/
def echoed (final : List UInt8) (words : List (List Char)) : List UInt8 :=
  let text := Chars.joinWith [' '] words
  echoBytes final (text.length + 1) text

/-- A format used again and again until its arguments are used up. -/
def format (fuel : Nat) (layout : List Char) (arguments : List (List Char)) : List UInt8 :=
  match fuel with
  | 0 => []
  | fuel + 1 =>
    let (bytes, left) := formatBytes (layout.length + 1) layout arguments
    if left.isEmpty || left.length = arguments.length then bytes
    else bytes ++ format fuel layout left

end RemapSynth.Rehearsal.Shell
