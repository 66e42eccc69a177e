/-
What a word stands for once variables and whole-number arithmetic in it
are worked out.
-/
import RemapSynth.Rehearsal.Shell.State
import RemapSynth.Text.Search

namespace RemapSynth.Rehearsal.Shell

/-- A whole number or a variable that holds one. -/
def operand (s : State) (word : List Char) : Int :=
  match Chars.readNat? word with
  | some n => n
  | none =>
    match s.get (if word.head? = some '$' then word.drop 1 else word) with
    | '-' :: digits => -(((Chars.readNat? digits).getD 0 : Nat) : Int)
    | digits => ((Chars.readNat? digits).getD 0 : Nat)

/-- The tokens of an expression: operators one character each, operands whole. -/
def expressionTokens (s : List Char) : List (List Char) :=
  let step := fun (c : Char) (acc : List Char × List (List Char)) =>
    let closed := if acc.1.isEmpty then acc.2 else acc.1 :: acc.2
    if c = ' ' then ([], closed)
    else if ['+', '-', '*', '/', '%', '(', ')'].contains c then ([], [c] :: closed)
    else (c :: acc.1, acc.2)
  let (first, rest) := s.foldr step ([], [])
  if first.isEmpty then rest else first :: rest

mutual

/-- Sums and differences. -/
def sum (s : State) : Nat → List (List Char) → Int × List (List Char)
  | 0, tokens => (0, tokens)
  | fuel + 1, tokens =>
    let (value, rest) := product s fuel tokens
    sumMore s fuel value rest

/-- What is added to a value. -/
def sumMore (s : State) : Nat → Int → List (List Char) → Int × List (List Char)
  | 0, value, tokens => (value, tokens)
  | fuel + 1, value, ['+'] :: rest =>
    let (next, rest) := product s fuel rest
    sumMore s fuel (value + next) rest
  | fuel + 1, value, ['-'] :: rest =>
    let (next, rest) := product s fuel rest
    sumMore s fuel (value - next) rest
  | _ + 1, value, tokens => (value, tokens)

/-- Products, quotients and remainders. -/
def product (s : State) : Nat → List (List Char) → Int × List (List Char)
  | 0, tokens => (0, tokens)
  | fuel + 1, tokens =>
    let (value, rest) := factor s fuel tokens
    productMore s fuel value rest

/-- What a value is multiplied with. -/
def productMore (s : State) : Nat → Int → List (List Char) → Int × List (List Char)
  | 0, value, tokens => (value, tokens)
  | fuel + 1, value, ['*'] :: rest =>
    let (next, rest) := factor s fuel rest
    productMore s fuel (value * next) rest
  | fuel + 1, value, ['/'] :: rest =>
    let (next, rest) := factor s fuel rest
    productMore s fuel (value.tdiv next) rest
  | fuel + 1, value, ['%'] :: rest =>
    let (next, rest) := factor s fuel rest
    productMore s fuel (value.tmod next) rest
  | _ + 1, value, tokens => (value, tokens)

/-- A bracket, a negated factor, or an operand. -/
def factor (s : State) : Nat → List (List Char) → Int × List (List Char)
  | 0, tokens => (0, tokens)
  | fuel + 1, ['('] :: rest =>
    let (value, rest) := sum s fuel rest
    (value, rest.drop 1)
  | fuel + 1, ['-'] :: rest =>
    let (value, rest) := factor s fuel rest
    (-value, rest)
  | _ + 1, word :: rest => (operand s word, rest)
  | _ + 1, [] => (0, [])

end

def evaluate (s : State) (expression : List Char) : Int :=
  let tokens := expressionTokens expression
  (sum s (4 * tokens.length + 4) tokens).1

def expandPiece (s : State) : Piece → List Char
  | .text chars => chars
  | .variable name => s.get name
  | .arithmetic chars => (toString (evaluate s chars)).toList

/-- A word as the arguments it stands for: what a variable holds is cut at blanks, unless it is
quoted. -/
def expand (s : State) (pieces : List (Piece × Bool)) : List (List Char) :=
  let isText := fun (p : Piece × Bool) =>
    match p with
    | (.text _, _) => true
    | (_, quoted) => quoted
  let whole := pieces.flatMap fun p => expandPiece s p.1
  if pieces.all isText then [whole] else Chars.words whole

/-- A word as one text. -/
def expandWhole (s : State) (pieces : List (Piece × Bool)) : List Char :=
  pieces.flatMap fun p => expandPiece s p.1

/-- The name and the value's pieces of an assignment. -/
def assignment? : List (Piece × Bool) → List Char → Option (List Char × List (Piece × Bool))
  | (.text [c], false) :: rest, name =>
    if c = '=' ∧ !name.isEmpty then some (name.reverse, rest)
    else if isNameChar c ∧ !(name.isEmpty ∧ Text.isAsciiDigit c) then
      assignment? rest (c :: name)
    else none
  | _, _ => none

end RemapSynth.Rehearsal.Shell
