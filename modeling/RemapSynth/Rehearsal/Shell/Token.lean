/-
The words and marks of a shell script: quotes are taken off, and what a
dollar sign starts is told apart from plain text.
-/
import RemapSynth.Text.Numeral

namespace RemapSynth.Rehearsal.Shell

/-- A piece of a word before expansion. -/
inductive Piece
  | text (chars : List Char)
  | variable (name : List Char)
  | arithmetic (chars : List Char)
  deriving Repr, DecidableEq

/-- A token of a script. A word is a list of pieces, each with whether it was quoted. -/
inductive Token
  | word (pieces : List (Piece × Bool))
  | mark (chars : List Char)
  /-- Sends a stream to what the next word names: a stream if `toStream` is set, else a file. -/
  | send (stream : Nat) (toStream : Bool)
  deriving Repr, DecidableEq

/-- A character of a variable's name. -/
def isNameChar (c : Char) : Bool := Text.isAsciiLetter c || Text.isAsciiDigit c || c == '_'

/-- The text up to two closing brackets, and what follows them. -/
def splitDouble : List Char → List Char × List Char
  | [] => ([], [])
  | ')' :: ')' :: s => ([], s)
  | c :: s => let (inside, rest) := splitDouble s; (c :: inside, rest)

/-- The piece behind a dollar sign, and the rest. -/
def scanDollar (s : List Char) : Piece × List Char :=
  match s with
  | '(' :: '(' :: s => let (inside, rest) := splitDouble s; (.arithmetic inside, rest)
  | '\x7b' :: s =>
    (.variable (s.takeWhile isNameChar), (s.dropWhile isNameChar).drop 1)
  | '$' :: s => (.variable ['$'], s)
  | '?' :: s => (.variable ['?'], s)
  | s =>
    let name := s.takeWhile isNameChar
    if name.isEmpty then (.text ['$'], s) else (.variable name, s.drop name.length)

/-- Marks of two characters. -/
def doubleMarks : List (List Char) := [['&', '&'], ['|', '|'], [';', ';']]

/-- Marks of one character. -/
def singleMarks : List Char := [';', '&', '|', '(', ')', '\n', '<']

/-- The stream that an open word names in front of an arrow, if the word is one digit. -/
def streamOf? : Option (List (Piece × Bool)) → Option Nat
  | some [(.text [c], false)] => if Text.isAsciiDigit c then some (c.toNat - 48) else none
  | _ => none

/-- The tokens of a script; `word` holds the pieces of the word that is open, newest first, and
`quoted` is set inside double quotes. -/
def scan : Nat → (word : Option (List (Piece × Bool))) → (quoted : Bool) → List Char → List Token
  | 0, _, _, _ => []
  | fuel + 1, word, quoted, s =>
    let close : List Token := (word.map fun w => Token.word w.reverse).toList
    let add := fun (p : Piece) => some ((p, quoted) :: word.getD [])
    match s, quoted with
    | [], _ => close
    | '"' :: s, true => scan fuel word false s
    | '"' :: s, false => scan fuel (some ((.text [], true) :: word.getD [])) true s
    | '$' :: s, _ => let (p, s) := scanDollar s; scan fuel (add p) quoted s
    | '\\' :: c :: s, true =>
      if c = '"' ∨ c = '\\' ∨ c = '$' then scan fuel (add (.text [c])) true s
      else scan fuel (add (.text ['\\', c])) true s
    | c :: s, true => scan fuel (add (.text [c])) true s
    | '\'' :: s, false =>
      let inside := s.takeWhile (· ≠ '\'')
      scan fuel (some ((.text inside, true) :: word.getD [])) false (s.drop (inside.length + 1))
    | '\\' :: c :: s, false => scan fuel (some ((.text [c], true) :: word.getD [])) false s
    | '#' :: s, false =>
      if word.isNone then close ++ scan fuel none false (s.dropWhile (· ≠ '\n'))
      else scan fuel (add (.text ['#'])) false s
    | c :: s, false =>
      if c = ' ' ∨ c = '\t' then close ++ scan fuel none false s
      else if c = '>' then
        let before := if (streamOf? word).isSome then [] else close
        let toStream := s.head? == some '&'
        let s := if toStream || s.head? == some '>' then s.drop 1 else s
        before ++ .send ((streamOf? word).getD 1) toStream :: scan fuel none false s
      else
        match doubleMarks.find? (·.isPrefixOf (c :: s)) with
        | some mark => close ++ .mark mark :: scan fuel none false (s.drop 1)
        | none =>
          if singleMarks.contains c then close ++ .mark [c] :: scan fuel none false s
          else scan fuel (add (.text [c])) false s

end RemapSynth.Rehearsal.Shell
