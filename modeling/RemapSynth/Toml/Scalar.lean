/-
Reading what stands alone in TOML: strings in their four forms, numbers,
dates and times. Each reader returns what it read and the rest of the text,
or nothing when the text does not have the form.
-/
import RemapSynth.Toml.Value
import RemapSynth.Text.Numeral
import RemapSynth.Text.Search
import RemapSynth.Json.Scan
import RemapSynth.Width

namespace RemapSynth.Toml

/-- What a reader gives. -/
abbrev Reading (α : Type) := Option (α × List Char)

/-- Space or tab. -/
def isSpace (c : Char) : Bool := c == ' ' || c == '\t'

/-- The text from its first character that is no space or tab. -/
def skipSpace (s : List Char) : List Char := s.dropWhile isSpace

/-- A character that may stand for itself inside a string. -/
def isPrintable (c : Char) : Bool := c == '\t' || (32 ≤ c.toNat && c.toNat ≠ 127)

/-- The rest behind a line break at the front. -/
def lineBreak? : List Char → Option (List Char)
  | '\n' :: s => some s
  | '\r' :: '\n' :: s => some s
  | _ => none

/-- The rest behind a line break at the front, or all of it. -/
def dropLineBreak (s : List Char) : List Char := (lineBreak? s).getD s

/-- The number written by exactly `n` hexadecimal digits. -/
def hexNumber? : Nat → Nat → List Char → Reading Nat
  | 0, value, s => some (value, s)
  | n + 1, value, c :: s =>
    match Json.hexDigit? c with
    | some d => hexNumber? n (value * 16 + d) s
    | none => none
  | _ + 1, _, [] => none

/-- The character with a code point, if there is one. -/
def charOf? (n : Nat) : Option Char :=
  if n < 0xd800 ∨ (0xdfff < n ∧ n < 0x110000) then some (Char.ofNat n) else none

/-- The character that is written behind a backslash. -/
def escape? : List Char → Reading Char
  | 'b' :: s => some ('\x08', s)
  | 't' :: s => some ('\t', s)
  | 'n' :: s => some ('\n', s)
  | 'f' :: s => some ('\x0c', s)
  | 'r' :: s => some ('\r', s)
  | '"' :: s => some ('"', s)
  | '\\' :: s => some ('\\', s)
  | 'u' :: s => (hexNumber? 4 0 s).bind fun (n, s) => (charOf? n).map (·, s)
  | 'U' :: s => (hexNumber? 8 0 s).bind fun (n, s) => (charOf? n).map (·, s)
  | _ => none

/-- A string in double quotes, read behind the opening one. -/
def basicString? : Nat → List Char → Reading (List Char)
  | 0, _ => none
  | _ + 1, '"' :: s => some ([], s)
  | fuel + 1, '\\' :: s =>
    (escape? s).bind fun (c, s) => (basicString? fuel s).map fun (cs, s) => (c :: cs, s)
  | fuel + 1, c :: s =>
    if isPrintable c then (basicString? fuel s).map fun (cs, s) => (c :: cs, s) else none
  | _ + 1, [] => none

/-- A string in single quotes, read behind the opening one. -/
def literalString? (s : List Char) : Reading (List Char) :=
  let inside := fun c => isPrintable c && c != '\''
  match s.dropWhile inside with
  | '\'' :: rest => some (s.takeWhile inside, rest)
  | _ => none

/-- The end of a string in triple quotes: three to five of them, of which the last three close the
string and the others belong to it. -/
def tripleEnd? (quote : Char) (s : List Char) : Reading (List Char) :=
  let run := (s.takeWhile (· == quote)).length
  if run < 3 then none
  else
    let inside := min 2 (run - 3)
    some (List.replicate inside quote, s.drop (inside + 3))

/-- The text behind a backslash at the end of a line: blanks and line breaks are passed over. -/
def continued? (s : List Char) : Option (List Char) :=
  (lineBreak? (skipSpace s)).map fun s =>
    s.dropWhile fun c => isSpace c || c == '\n' || c == '\r'

/-- The body of a string in triple double quotes. -/
def basicBody? : Nat → List Char → Reading (List Char)
  | 0, _ => none
  | _ + 1, [] => none
  | fuel + 1, '\\' :: s =>
    match continued? s with
    | some s => basicBody? fuel s
    | none => (escape? s).bind fun (c, s) => (basicBody? fuel s).map fun (cs, s) => (c :: cs, s)
  | fuel + 1, c :: s =>
    match tripleEnd? '"' (c :: s) with
    | some ending => some ending
    | none =>
      match lineBreak? (c :: s) with
      | some s => (basicBody? fuel s).map fun (cs, s) => ('\n' :: cs, s)
      | none =>
        if isPrintable c then (basicBody? fuel s).map fun (cs, s) => (c :: cs, s) else none

/-- The body of a string in triple single quotes. -/
def literalBody? : Nat → List Char → Reading (List Char)
  | 0, _ => none
  | _ + 1, [] => none
  | fuel + 1, c :: s =>
    match tripleEnd? '\'' (c :: s) with
    | some ending => some ending
    | none =>
      match lineBreak? (c :: s) with
      | some s => (literalBody? fuel s).map fun (cs, s) => ('\n' :: cs, s)
      | none =>
        if isPrintable c then (literalBody? fuel s).map fun (cs, s) => (c :: cs, s) else none

/-- A string on one line. -/
def lineString? : List Char → Reading (List Char)
  | '"' :: s => basicString? (s.length + 1) s
  | '\'' :: s => literalString? s
  | _ => none

def string? (s : List Char) : Reading (List Char) :=
  match s with
  | '"' :: '"' :: '"' :: s => basicBody? (s.length + 1) (dropLineBreak s)
  | '\'' :: '\'' :: '\'' :: s => literalBody? (s.length + 1) (dropLineBreak s)
  | s => lineString? s

/-- Digits of a class as long as they follow each other, a single underscore allowed before each;
none when an underscore has no digit behind it. -/
def moreDigits? (isDigit : Char → Bool) : List Char → Reading (List Char)
  | [] => some ([], [])
  | ['_'] => none
  | '_' :: c :: s =>
    if isDigit c then (moreDigits? isDigit s).map fun (cs, s) => (c :: cs, s) else none
  | c :: s =>
    if isDigit c then (moreDigits? isDigit s).map fun (cs, s) => (c :: cs, s)
    else some ([], c :: s)

/-- One or more digits of a class; single underscores may stand between two of them. -/
def digits? (isDigit : Char → Bool) : List Char → Reading (List Char)
  | c :: s =>
    if isDigit c then (moreDigits? isDigit s).map fun (cs, s) => (c :: cs, s) else none
  | [] => none

/-- The sign in front of a number: whether it is negative. -/
def sign : List Char → Bool × List Char
  | '-' :: s => (true, s)
  | '+' :: s => (false, s)
  | s => (false, s)

/-- The digits of a decimal number without leading zeros. -/
def decimal? (s : List Char) : Reading (List Char) :=
  match s with
  | '0' :: s => some (['0'], s)
  | s => digits? Text.isAsciiDigit s

/-- The value of digits to a base, a power of two. -/
def valueIn (base : Nat) (digits : List Char) : Nat :=
  digits.foldl (fun n c => n * base + (Json.hexDigit? c).getD 0) 0

/-- A digit to a base of at most sixteen. -/
def isDigitIn (base : Nat) (c : Char) : Bool :=
  match Json.hexDigit? c with
  | some d => d < base
  | none => false

/-- The base named by the letter behind a zero. -/
def baseOf? : List Char → Option (Nat × List Char)
  | '0' :: 'x' :: s => some (16, s)
  | '0' :: 'o' :: s => some (8, s)
  | '0' :: 'b' :: s => some (2, s)
  | _ => none

/-- A whole number of 64 bits. -/
def integer? (s : List Char) : Reading Toml :=
  match baseOf? s with
  | some (base, s) =>
    (digits? (isDigitIn base) s).bind fun (digits, s) =>
      let n := valueIn base digits
      if n < Width.signBound then some (.int n, s) else none
  | none =>
    let (negative, s) := sign s
    (decimal? s).bind fun (digits, s) =>
      let n := Chars.natOfDigits digits
      if negative then if n ≤ Width.signBound then some (.int (-n), s) else none
      else if n < Width.signBound then some (.int n, s)
      else none

/-- The exponent of a number: its sign and digits. -/
def exponent? : List Char → Reading (Bool × List Char)
  | c :: s =>
    if c = 'e' ∨ c = 'E' then
      let (negative, s) := sign s
      (digits? Text.isAsciiDigit s).map fun (digits, s) => ((negative, digits), s)
    else none
  | [] => none

/-- The double nearest to `digits * 10 ^ (power - places)`. -/
def nearest (digits : List Char) (places : Nat) (power : Int) : Float :=
  let exponent := power - places
  .ofScientific (Chars.natOfDigits digits) (exponent < 0) exponent.natAbs

/-- A power of ten, held where no double reaches. -/
def powerOf (negative : Bool) (digits : List Char) : Int :=
  let size := min 100000 (Chars.natOfDigits digits)
  if negative then -size else size

/-- `inf` or `nan` behind a sign. -/
def special? (negative : Bool) : List Char → Reading Toml
  | 'i' :: 'n' :: 'f' :: s => some (.float (if negative then -(1.0 / 0.0) else 1.0 / 0.0), s)
  | 'n' :: 'a' :: 'n' :: s => some (.float (0.0 / 0.0), s)
  | _ => none

/-- A number with a fraction, an exponent, or both. One too large for a double is none, unless it
is negative. -/
def float? (s : List Char) : Reading Toml :=
  let (negative, s) := sign s
  match special? negative s with
  | some found => some found
  | none =>
    (decimal? s).bind fun (whole, s) =>
      let (fraction, s, pointed) :=
        match s with
        | '.' :: rest =>
          match digits? Text.isAsciiDigit rest with
          | some (fraction, rest) => (fraction, rest, true)
          | none => ([], s, false)
        | _ => ([], s, false)
      let finish := fun (power : Int) (s : List Char) =>
        let x := nearest (whole ++ fraction) fraction.length power
        if negative then some (Toml.float (-x), s)
        else if x.isInf then none
        else some (Toml.float x, s)
      match exponent? s with
      | some ((below, digits), s) => finish (powerOf below digits) s
      | none => if pointed then finish 0 s else none

/-- The number written by exactly `n` digits. -/
def fixedDigits? (n : Nat) (s : List Char) : Reading Nat :=
  let digits := s.take n
  if digits.length = n ∧ digits.all Text.isAsciiDigit then
    some (Chars.natOfDigits digits, s.drop n)
  else none

/-- A character that must stand at the front. -/
def expect? (c : Char) : List Char → Option (List Char)
  | d :: s => if c = d then some s else none
  | [] => none

/-- The days of a month. -/
def daysIn (year month : Nat) : Nat :=
  if month = 2 then
    if year % 4 = 0 ∧ (year % 100 ≠ 0 ∨ year % 400 = 0) then 29 else 28
  else if month = 4 ∨ month = 6 ∨ month = 9 ∨ month = 11 then 30
  else 31

/-- The rest behind a date. -/
def date? (s : List Char) : Option (List Char) := do
  let (year, s) ← fixedDigits? 4 s
  let s ← expect? '-' s
  let (month, s) ← fixedDigits? 2 s
  let s ← expect? '-' s
  let (day, s) ← fixedDigits? 2 s
  if 1 ≤ month ∧ month ≤ 12 ∧ 1 ≤ day ∧ day ≤ daysIn year month then some s else none

/-- The rest behind a time of day. -/
def time? (s : List Char) : Option (List Char) := do
  let (hour, s) ← fixedDigits? 2 s
  let s ← expect? ':' s
  let (minute, s) ← fixedDigits? 2 s
  let s ← expect? ':' s
  let (second, s) ← fixedDigits? 2 s
  if hour ≤ 23 ∧ minute ≤ 59 ∧ second ≤ 60 then
    match s with
    | '.' :: rest =>
      let rest' := rest.dropWhile Text.isAsciiDigit
      if rest'.length < rest.length then some rest' else none
    | s => some s
  else none

/-- The rest behind an offset from universal time; all of it when there is none. -/
def afterOffset? : List Char → Option (List Char)
  | 'Z' :: s | 'z' :: s => some s
  | '+' :: s | '-' :: s => do
    let (hour, s) ← fixedDigits? 2 s
    let s ← expect? ':' s
    let (minute, s) ← fixedDigits? 2 s
    if hour ≤ 23 ∧ minute ≤ 59 then some s else none
  | s => some s

/-- The rest behind a date, a time, or both. -/
def afterMoment? (s : List Char) : Option (List Char) :=
  match date? s with
  | none => time? s
  | some rest =>
    match rest with
    | c :: after =>
      if c = 'T' ∨ c = 't' ∨ c = ' ' then
        match time? after with
        | some after => afterOffset? after
        | none => if c = ' ' then some rest else none
      else some rest
    | [] => some []

/-- A date, a time, or both. -/
def moment? (s : List Char) : Reading Toml :=
  (afterMoment? s).map fun rest => (.moment (.ofList (s.take (s.length - rest.length))), rest)

/-- A number, a date or a time. -/
def number? (s : List Char) : Reading Toml :=
  match moment? s with
  | some found => some found
  | none =>
    match float? s with
    | some found => some found
    | none => integer? s

end RemapSynth.Toml
