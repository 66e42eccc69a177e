/-
The built-in rules, for each kind of compiler error in order of priority.
-/
import RemapSynth.Fix.Rule
import RemapSynth.Diagnosis

namespace RemapSynth.Fix

open Pattern (sequence oneOf text many one maybe group lineStart lineEnd wordEdge)

/-- Blanks, as many as there are. -/
def blanks : Pattern := many Text.isBlank 0

/-- At least one blank. -/
def gap : Pattern := many Text.isBlank 1

/-- The coalescing operator with blanks around it. -/
def coalesce : Pattern := sequence [blanks, text "??", blanks]

/-- Characters of a field path or a variable name. -/
def isPathChar (c : Char) : Bool := Text.isWord c || c == '.'

/-- Arguments in parentheses without parentheses inside. -/
def flatArguments : Pattern :=
  sequence [text "(", many (fun c => c != '(' && c != ')') 0, text ")"]

/-- A rule that replaces the first match of a pattern. -/
def substitution (name : String) (p : Pattern) (parts : List Pattern.Part) : Rule :=
  ⟨name, .pattern p, .substitute parts, []⟩

/-- A rule that takes the fallback off a call of one of `functions`. -/
def dropFallback (name : String) (functions : List String) (fallback : Pattern) : Rule :=
  substitution name
    (sequence [group 1 (sequence [oneOf functions, flatArguments]), coalesce, fallback])
    [.group 1]

/-- A rule that gives an assignment of a call of one of `functions` a fallback. -/
def addFallback (name : String) (functions : List String) (fallback : String) : Rule :=
  substitution name
    (sequence
      [lineStart,
        group 1
          (sequence
            [blanks, maybe (text "."), many isPathChar 1, blanks, text "=", blanks,
              oneOf functions, text "(", many (· != '?') 0, text ")"]),
        blanks, lineEnd])
    [.group 1, .text (" ?? " ++ fallback)]

/-- For fallbacks behind calls that cannot fail. -/
def coalesceRules : List Rule :=
  [dropFallback "split_default_array" ["split"] (text "[]"),
    dropFallback "string_fn_default_string"
      ["string!", "to_string", "upcase", "downcase", "strip_whitespace"] (text "\"\""),
    dropFallback "predicate_default_bool" ["contains", "starts_with", "ends_with"]
      (sequence [oneOf ["false", "true"], wordEdge]),
    dropFallback "exists_default" ["exists"] (sequence [oneOf ["false", "null"], wordEdge]),
    dropFallback "length_default" ["length"] (many Text.isDigit 1),
    substitution "field_default_null"
      (sequence
        [group 1
          (sequence
            [text ".", one (fun c => Text.isAsciiLetter c || c == '_'), many isPathChar 0]),
          coalesce, text "null", wordEdge])
      [.group 1]]

/-- For calls that can fail and have no fallback. -/
def fallibleRules : List Rule :=
  [addFallback "split_assignment_default" ["split"] "[]",
    addFallback "parse_assignment_default"
      ["parse_json", "parse_timestamp", "parse_syslog", "parse_key_value", "parse_int", "to_int",
        "to_float"]
      "null"]

/-- Function names that models tend to invent, with the real ones. -/
def aliases : List (String × String) :=
  [("lowercase", "downcase"), ("to_lower", "downcase"), ("uppercase", "upcase"),
    ("to_upper", "upcase"), ("trim", "strip_whitespace"), ("strip", "strip_whitespace"),
    ("len", "length"), ("startswith", "starts_with"), ("endswith", "ends_with"),
    ("to_str", "to_string")]

/-- For invented function names. -/
def aliasRules : List Rule :=
  aliases.map fun (invented, real) =>
    substitution ("alias_" ++ invented)
      (sequence [wordEdge, text (invented ++ "(")]) [.text (real ++ "(")]

/-- For fallible conditions. -/
def predicateRules : List Rule :=
  [substitution "wrap_fallible_predicate"
    (sequence
      [lineStart,
        group 1
          (sequence
            [blanks, maybe (text "\x7d"), blanks, maybe (sequence [text "else", gap]), text "if",
              gap]),
        group 2
          (sequence
            [.orElse (sequence [text "parse_", many Text.isWord 1])
                (.orElse (sequence [text "to_", many Text.isWord 1])
                  (oneOf ["contains", "starts_with", "ends_with"])),
              text "(", many (· != '\x7b') 0, text ")"]),
        group 3 (sequence [blanks, text "\x7b"])])
    [.group 1, .text "(", .group 2, .text " ?? false)", .group 3]]

/-- For aborts where nothing may fail. -/
def abortRules : List Rule :=
  [⟨"drop_abort_statement", .pattern (sequence [lineStart, blanks, text "abort", wordEdge]),
      .dropLine, []⟩,
    substitution "empty_abort_block"
      (sequence [text "\x7b", blanks, text "abort", blanks, text "\x7d"]) [.text "\x7b\x7d"]]

/-- For programs that are not well-formed. -/
def malformedRules : List Rule :=
  [⟨"comment_bare_return", .pattern (sequence [lineStart, blanks, text "return", wordEdge]),
      .commentOut, []⟩,
    substitution "negative_last_index"
      (sequence
        [text "[length(", many Text.isWord 1, text ")", blanks, text "-", blanks, text "1]"])
      [.text "[-1]"]]

/-- The kinds of error that have built-in rules, with their rules. -/
def seeds : List (Diagnosis × List Rule) :=
  [(.unhandledFallible, fallibleRules), (.undefinedFunction, aliasRules),
    (.falliblePredicate, predicateRules), (.malformed, malformedRules),
    (.abortInInfallible, abortRules), (.unnecessaryCoalesce, coalesceRules)]

/-- The built-in rules for one kind of error. -/
def seedsFor (d : Diagnosis) : List Rule := ((seeds.find? (·.1 = d)).map (·.2)).getD []

end RemapSynth.Fix
