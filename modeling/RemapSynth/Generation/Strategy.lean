/-
Strategies: the different ways in which a model is asked to write a parser.
A run has as many as were asked for, no two of one name: those a model
proposed come first, built-in ones fill up the rest.
-/
import RemapSynth.Json.Value
import RemapSynth.Text.Lowercase
import RemapSynth.Text.Blank

namespace RemapSynth

/-- One way of writing a parser. -/
structure Strategy where
  name : String
  description : String := ""
  approach : String := ""
  deriving Repr, DecidableEq

namespace Strategy

/-- The name of the strategy that breaks cycles. -/
def simplifyName : String := "anti_cyclical_simple"

/-- The strategy that is tried once the same kind of failure keeps coming back. -/
def simplify : Strategy :=
  ⟨simplifyName, "Ultra-simple VRL to break error cycles",
    "Minimal logic, avoid complex patterns that failed before"⟩

/-- Whether a strategy is the one that breaks cycles. -/
def isSimplify (s : Strategy) : Bool := s.name == simplifyName

def builtIn : List Strategy :=
  [⟨"string_ops_only", "Pure string functions",
      "contains, starts_with and slice on the message; no parsers"⟩,
    ⟨"split_based_tokenizer", "Positional tokens",
      "split the message on delimiters and index into the parts"⟩,
    ⟨"hybrid_structured", "Structured parsers where the format allows",
      "parse_syslog or parse_key_value first, string functions for the rest"⟩]

/-- A name in snake case: lower-case letters and numbers, an underscore for anything else, none at
the ends. -/
def normalizeName (name : List Char) : List Char :=
  Chars.trimMatches (· = '_')
    ((Chars.toLower (Chars.trim name)).map fun c => if Text.isAlphanumeric c then c else '_')

/-- A text that may be missing. -/
def textOrEmpty? : Option Json → Option String
  | none => some ""
  | some (.str s) => some s
  | some _ => none

/-- A strategy written as an object, or as an array of one to three texts. -/
def ofJson? : Json → Option Strategy
  | .obj fields =>
    let get := fun key => Json.get? key (.obj fields)
    match get "name", textOrEmpty? (get "description"), textOrEmpty? (get "approach") with
    | some (.str name), some description, some approach => some ⟨name, description, approach⟩
    | _, _, _ => none
  | .arr [.str name] => some ⟨name, "", ""⟩
  | .arr [.str name, .str description] => some ⟨name, description, ""⟩
  | .arr [.str name, .str description, .str approach] => some ⟨name, description, approach⟩
  | _ => none

/-- The text from the first `[` to the last `]`. -/
def bracketed? (s : List Char) : Option (List Char) :=
  match s.dropWhile (· ≠ '[') with
  | [] => none
  | s =>
    match s.reverse.dropWhile (· ≠ ']') with
    | [] => none
    | s => some s.reverse

/-- A strategy with its name normalised; none when no name is left. -/
def normalized? (s : Strategy) : Option Strategy :=
  let name := normalizeName s.name.toList
  if name.isEmpty then none else some { s with name := .ofList name }

/-- The strategies in the answer of a model; entries that are no strategies are passed over. -/
def ofAnswer (answer : String) : List Strategy :=
  match (bracketed? answer.toList).map Json.parseChars with
  | some (.ok (.arr items)) => (items.filterMap ofJson?).filterMap normalized?
  | _ => []

end Strategy
end RemapSynth
