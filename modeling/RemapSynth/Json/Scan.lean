/-
Reading a JSON text into its tree. Every function returns what it read and
the rest of the text; the fuel is the length of the text, and each call
that reads a value, an item or a field uses up at least one character of it.
-/
import RemapSynth.Json.Tree

namespace RemapSynth.Json

/-- What a step of the scanner gives: what was read and the rest, or a fault and the text from
where it was found. -/
abbrev Scanned (α : Type) := Except (Fault × List Char) (α × List Char)

/-- JSON's own white space, four ASCII characters. -/
def isSpace (c : Char) : Bool := c == ' ' || c == '\n' || c == '\t' || c == '\r'

/-- The text from its first character that is no space. -/
def skipSpace (s : List Char) : List Char := s.dropWhile isSpace

/-- The digits in front, and the rest. -/
def spanDigits (s : List Char) : List Char × List Char :=
  (s.takeWhile Text.isAsciiDigit, s.dropWhile Text.isAsciiDigit)

def hexDigit? (c : Char) : Option Nat :=
  let n := c.toNat
  if 48 ≤ n ∧ n ≤ 57 then some (n - 48)
  else if 65 ≤ n ∧ n ≤ 70 then some (n - 55)
  else if 97 ≤ n ∧ n ≤ 102 then some (n - 87)
  else none

/-- What a digit that was promised but is missing means. -/
def missingDigit (s : List Char) : Fault × List Char :=
  (if s.isEmpty then .endOfValue else .badNumber, s)

/-- The exponent behind a numeral's digits, when there is one. -/
def scanExponent (s : List Char) : Scanned (Option (Bool × List Char)) :=
  match s with
  | 'e' :: s | 'E' :: s =>
    let (negative, s) :=
      match s with
      | '-' :: s => (true, s)
      | '+' :: s => (false, s)
      | s => (false, s)
    match spanDigits s with
    | ([], s) => .error (missingDigit s)
    | (digits, s) => .ok (some (negative, digits), s)
  | s => .ok (none, s)

/-- The fraction behind a numeral's whole digits, when there is one. -/
def scanFraction (s : List Char) : Scanned (List Char) :=
  match s with
  | '.' :: s =>
    match spanDigits s with
    | ([], s) => .error (missingDigit s)
    | (digits, s) => .ok (digits, s)
  | s => .ok ([], s)

/-- The digits of a numeral behind its sign: no leading zero but a single one. -/
def scanNumeral (negative : Bool) (s : List Char) : Scanned Tree :=
  match spanDigits s with
  | ([], s) => .error (missingDigit s)
  | ('0' :: _ :: _, s) => .error (.badNumber, s)
  | (whole, s) =>
    match scanFraction s with
    | .error e => .error e
    | .ok (fraction, s) =>
      (scanExponent s).map fun (exponent, s) => (.number ⟨negative, whole, fraction, exponent⟩, s)

/-- The character that a backslash and `c` stand for. -/
def escaped? (c : Char) : Option Char :=
  match c with
  | '"' => some '"'
  | '\\' => some '\\'
  | '/' => some '/'
  | 'b' => some '\x08'
  | 'f' => some '\x0c'
  | 'n' => some '\n'
  | 'r' => some '\r'
  | 't' => some '\t'
  | _ => none

/-- The pieces of a string behind its opening quote. -/
def scanString : List Char → Scanned (List Piece)
  | [] => .error (.endOfString, [])
  | '"' :: s => .ok ([], s)
  | '\\' :: 'u' :: a :: b :: c :: d :: s =>
    match hexDigit? a, hexDigit? b, hexDigit? c, hexDigit? d with
    | some a, some b, some c, some d =>
      match scanString s with
      | .ok (pieces, s) => .ok (.unit (((a * 16 + b) * 16 + c) * 16 + d) :: pieces, s)
      | .error e => .error e
    | _, _, _, _ => .error (.badEscape, s)
  | '\\' :: 'u' :: _ => .error (.endOfString, [])
  | '\\' :: c :: s =>
    match escaped? c with
    | some c =>
      match scanString s with
      | .ok (pieces, s) => .ok (.char c :: pieces, s)
      | .error e => .error e
    | none => .error (.badEscape, s)
  | ['\\'] => .error (.endOfString, [])
  | c :: s =>
    if c.toNat < 32 then .error (.controlCharacter, s)
    else
      match scanString s with
      | .ok (pieces, s) => .ok (.char c :: pieces, s)
      | .error e => .error e

/-- `word` in front of the text, as the value it stands for. -/
def scanWord (word : String) (value : Tree) (s : List Char) : Scanned Tree :=
  if word.toList.isPrefixOf s then .ok (value, s.drop word.length)
  else .error (if s.isPrefixOf word.toList then .endOfValue else .expectedIdentifier, s)

mutual

/-- One value, spaces before it skipped. -/
def scanValue : Nat → List Char → Scanned Tree
  | 0, s => .error (.endOfValue, s)
  | fuel + 1, s =>
    match skipSpace s with
    | [] => .error (.endOfValue, [])
    | '[' :: s =>
      match skipSpace s with
      | [] => .error (.endOfArray, [])
      | ']' :: s => .ok (.array [], s)
      | s => (scanItems fuel s).map fun (items, s) => (.array items, s)
    | '{' :: s =>
      match skipSpace s with
      | [] => .error (.endOfObject, [])
      | '}' :: s => .ok (.object [], s)
      | s => (scanFields fuel s).map fun (fields, s) => (.object fields, s)
    | '"' :: s => (scanString s).map fun (pieces, s) => (.string pieces, s)
    | '-' :: s => scanNumeral true s
    | 't' :: s => scanWord "true" (.bool true) ('t' :: s)
    | 'f' :: s => scanWord "false" (.bool false) ('f' :: s)
    | 'n' :: s => scanWord "null" .null ('n' :: s)
    | c :: s =>
      if Text.isAsciiDigit c then scanNumeral false (c :: s) else .error (.expectedValue, s)

/-- The items of an array up to its closing bracket; at least one. -/
def scanItems : Nat → List Char → Scanned (List Tree)
  | 0, s => .error (.endOfArray, s)
  | fuel + 1, s =>
    match scanValue fuel s with
    | .error e => .error e
    | .ok (item, s) =>
      match skipSpace s with
      | [] => .error (.endOfArray, [])
      | ']' :: s => .ok ([item], s)
      | ',' :: s =>
        match skipSpace s with
        | ']' :: s => .error (.trailingComma, s)
        | s => (scanItems fuel s).map fun (items, s) => (item :: items, s)
      | _ :: s => .error (.expectedArrayEnd, s)

/-- The fields of an object up to its closing brace; at least one. -/
def scanFields : Nat → List Char → Scanned (List (List Piece × Tree))
  | 0, s => .error (.endOfObject, s)
  | fuel + 1, s =>
    match skipSpace s with
    | [] => .error (.endOfObject, [])
    | '"' :: s =>
      match scanString s with
      | .error e => .error e
      | .ok (key, s) =>
        match skipSpace s with
        | [] => .error (.endOfObject, [])
        | ':' :: s =>
          match scanValue fuel s with
          | .error e => .error e
          | .ok (value, s) =>
            match skipSpace s with
            | [] => .error (.endOfObject, [])
            | '}' :: s => .ok ([(key, value)], s)
            | ',' :: s =>
              match skipSpace s with
              | '}' :: s => .error (.trailingComma, s)
              | s => (scanFields fuel s).map fun (fields, s) => ((key, value) :: fields, s)
            | _ :: s => .error (.expectedObjectEnd, s)
        | _ :: s => .error (.expectedColon, s)
    | _ :: s => .error (.keyNotString, s)

end

/-- A whole text as one tree; only spaces may follow it. -/
def Tree.scan (s : List Char) : Except (Fault × List Char) Tree :=
  match scanValue (2 * s.length + 2) s with
  | .error e => .error e
  | .ok (tree, rest) =>
    match skipSpace rest with
    | [] => .ok tree
    | _ :: rest => .error (.trailingText, rest)

/-- Line and column, counted in bytes, of the place before `rest` in `s`. -/
def position (s rest : List Char) : Nat × Nat :=
  let read := s.take (s.length - rest.length)
  let column := (read.reverse.takeWhile (· ≠ '\n')).foldl (fun n c => n + c.utf8Size) 0
  (1 + read.count '\n', column)

/-- The wording of a fault with the place where it was found. -/
def faultMessage (s : List Char) (fault : Fault) (rest : List Char) : String :=
  let (line, column) := position s rest
  s!"{fault.message} at line {line} column {column}"

end RemapSynth.Json
