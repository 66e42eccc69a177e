/-
Commands of a shell script: lists, chains, pipes, loops and choices, with
the places their output is sent to. Reading goes by a count of steps that
the length of the script bounds.
-/
import RemapSynth.Rehearsal.Shell.Token

namespace RemapSynth.Rehearsal.Shell

/-- Where a command sends one of its streams: to another stream, or nowhere. -/
structure Redirect where
  stream : Nat
  target : Option Nat
  deriving Repr, DecidableEq

/-- A command. -/
inductive Command
  | simple (words : List (List (Piece × Bool))) (redirects : List Redirect)
  | sequence (first second : Command)
  /-- The second runs if the first ends as `wanted`. -/
  | chain (wanted : Bool) (first second : Command)
  | repeated (wanted : Bool) (test body : Command)
  | each (name : List Char) (items : List (List (Piece × Bool))) (body : Command)
  | choice (test yes no : Command)
  /-- The second reads what the first prints. -/
  | pipe (first second : Command)
  /-- Fails if the command succeeds, and the other way round. -/
  | negated (body : Command)
  /-- Runs in a shell of its own, whose variables and end are its own. -/
  | nested (body : Command)
  /-- Runs while the shell goes on. -/
  | background (body : Command)
  | redirected (body : Command) (redirects : List Redirect)
  | nothing
  deriving Repr

/-- The text of a word that is plain and not quoted. -/
def plainText (pieces : List (Piece × Bool)) : Option (List Char) :=
  pieces.foldr
    (fun piece rest =>
      match piece, rest with
      | (.text chars, false), some rest => some (chars ++ rest)
      | _, _ => none)
    (some [])

/-- Whether a token is the given plain word. -/
def Token.isWord (t : Token) (word : String) : Bool :=
  match t with
  | .word pieces => plainText pieces == some word.toList
  | _ => false

/-- Whether a token is the given mark. -/
def Token.isMark (t : Token) (mark : List Char) : Bool :=
  match t with
  | .mark m => m == mark
  | _ => false

/-- Whether a token is one of the given plain words. -/
def Token.isOneOf (t : Token) (words : List String) : Bool := words.any t.isWord

/-- Whether a token ends a command. -/
def Token.isSeparator : Token → Bool
  | .mark m => m == [';'] || m == ['\n']
  | _ => false

/-- The tokens without separators in front. -/
def skipSeparators (tokens : List Token) : List Token := tokens.dropWhile Token.isSeparator

/-- Where a stream goes that is sent to what a word names. -/
def targetOf (toStream : Bool) (pieces : List (Piece × Bool)) : Option Nat :=
  match plainText pieces with
  | some word =>
    if toStream then Chars.readNat? word
    else if word = "/dev/stdout".toList then some 1
    else if word = "/dev/stderr".toList then some 2
    else none
  | none => none

/-- The words and redirections of a simple command, and the tokens behind it. -/
def readSimple (words : List (List (Piece × Bool))) (redirects : List Redirect) :
    List Token → Command × List Token
  | .word w :: rest => readSimple (words ++ [w]) redirects rest
  | .send stream toStream :: .word target :: rest =>
    readSimple words (redirects ++ [⟨stream, targetOf toStream target⟩]) rest
  | .mark m :: .word source :: rest =>
    if m == ['<'] then readSimple words redirects rest
    else (.simple words redirects, .mark m :: .word source :: rest)
  | rest => (.simple words redirects, rest)
termination_by tokens => tokens.length

/-- The redirections behind a command, and the tokens behind them. -/
def readRedirects : List Token → List Redirect × List Token
  | .send stream toStream :: .word target :: rest =>
    let (redirects, rest) := readRedirects rest
    (⟨stream, targetOf toStream target⟩ :: redirects, rest)
  | rest => ([], rest)

/-- A command of several lines with the redirections behind it. -/
def withRedirects (command : Command) (tokens : List Token) : Command × List Token :=
  match readRedirects tokens with
  | ([], rest) => (command, rest)
  | (redirects, rest) => (.redirected command redirects, rest)

/-- The words up to a separator, and the tokens behind it. -/
def readWords : List Token → List (List (Piece × Bool)) × List Token
  | .word w :: rest => let (words, rest) := readWords rest; (w :: words, rest)
  | rest => ([], rest)

mutual

/-- One command with all that is chained to it. -/
def readChain : Nat → List Token → Command × List Token
  | 0, tokens => (.nothing, tokens)
  | fuel + 1, tokens =>
    let (first, rest) := readPipe fuel tokens
    readMore fuel first rest

/-- One command with all that it is piped to. -/
def readPipe : Nat → List Token → Command × List Token
  | 0, tokens => (.nothing, tokens)
  | fuel + 1, tokens =>
    match tokens with
    | token :: rest =>
      if token.isWord "!" then
        let (body, rest) := readPipe fuel rest
        (.negated body, rest)
      else
        let (first, rest) := readOne fuel tokens
        match rest with
        | next :: more =>
          if next.isMark ['|'] then
            let (second, rest) := readPipe fuel (skipSeparators more)
            (.pipe first second, rest)
          else (first, next :: more)
        | [] => (first, [])
    | [] => (.nothing, [])

/-- What is chained to a command. -/
def readMore : Nat → Command → List Token → Command × List Token
  | 0, first, tokens => (first, tokens)
  | fuel + 1, first, .mark m :: rest =>
    if m == ['&', '&'] || m == ['|', '|'] then
      let (second, rest) := readPipe fuel (skipSeparators rest)
      readMore fuel (.chain (m == ['&', '&']) first second) rest
    else (first, .mark m :: rest)
  | _ + 1, first, rest => (first, rest)

/-- One command. -/
def readOne : Nat → List Token → Command × List Token
  | 0, tokens => (.nothing, tokens)
  | fuel + 1, token :: rest =>
    if token.isOneOf ["while", "until"] then
      let (test, rest) := readList fuel ["do"] rest
      let (body, rest) := readList fuel ["done"] (rest.drop 1)
      withRedirects (.repeated (token.isWord "while") test body) (rest.drop 1)
    else if token.isWord "for" then
      match rest with
      | .word name :: rest =>
        let (items, rest) := readWords (rest.drop 1)
        let (body, rest) := readList fuel ["done"] ((skipSeparators rest).drop 1)
        withRedirects (.each ((plainText name).getD []) items body) (rest.drop 1)
      | rest => (.nothing, rest)
    else if token.isOneOf ["if", "elif"] then
      let (test, rest) := readList fuel ["then"] rest
      let (yes, rest) := readList fuel ["elif", "else", "fi"] (rest.drop 1)
      match rest with
      | next :: more =>
        if next.isWord "elif" then
          let (no, rest) := readOne fuel (next :: more)
          (.choice test yes no, rest)
        else if next.isWord "else" then
          let (no, rest) := readList fuel ["fi"] more
          (.choice test yes no, rest.drop 1)
        else (.choice test yes .nothing, more)
      | [] => (.choice test yes .nothing, [])
    else if token.isWord "\x7b" then
      let (body, rest) := readList fuel ["\x7d"] rest
      withRedirects body (rest.drop 1)
    else if token.isMark ['('] then
      let (body, rest) := readList fuel [] rest
      withRedirects (.nested body) (rest.drop 1)
    else readSimple [] [] (token :: rest)
  | _ + 1, [] => (.nothing, [])

/-- Commands up to one of the given words. -/
def readList : Nat → List String → List Token → Command × List Token
  | 0, _, tokens => (.nothing, tokens)
  | fuel + 1, stops, tokens =>
    match skipSeparators tokens with
    | [] => (.nothing, [])
    | token :: rest =>
      if token.isOneOf stops || token.isMark [')'] then (.nothing, token :: rest)
      else
        let (first, rest) := readChain fuel (token :: rest)
        let (first, rest) :=
          match rest with
          | next :: more =>
            if next.isMark ['&'] then (Command.background first, more) else (first, next :: more)
          | [] => (first, [])
        let rest := if rest.length < tokens.length then rest else rest.drop 1
        let (second, rest) := readList fuel stops rest
        (.sequence first second, rest)

end

def read (script : String) : Command :=
  let s := script.toList
  (readList (4 * s.length + 4) [] (scan (2 * s.length + 2) none false s)).1

end RemapSynth.Rehearsal.Shell
