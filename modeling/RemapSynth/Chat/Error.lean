/-
What can go wrong when a model is asked, sorted by what may help: waiting,
another model, another question, or nothing.
-/
import RemapSynth.Text.Blank
import RemapSynth.Text.Search
import RemapSynth.Text.Lowercase

namespace RemapSynth.Chat

inductive Category
  /-- No connection, no such name, or no answer in time. -/
  | network
  /-- The provider is busy or broken. -/
  | api
  /-- An answer with next to nothing in it. -/
  | emptyResponse
  /-- An answer that cannot be used. -/
  | generation
  /-- What trying again cannot mend. -/
  | infrastructure
  deriving Repr, DecidableEq

namespace Category

def name : Category → String
  | network => "network"
  | api => "api"
  | emptyResponse => "empty_response"
  | generation => "generation"
  | infrastructure => "infrastructure"

def ofName? (s : String) : Option Category :=
  [network, api, emptyResponse, generation, infrastructure].find? (·.name == s)

/-- Whether it makes sense to ask again. -/
def isRetryable : Category → Bool
  | network | api | emptyResponse => true
  | generation | infrastructure => false

/-- Words that tell a category, the lists in the order in which they are looked for. -/
def keywords : List (Category × List String) :=
  [(infrastructure,
      ["unauthorized", "invalid api key", "invalid key", "forbidden", "authentication"]),
    (network,
      ["connection", "timeout", "timed out", "network", "dns", "resolve", "unreachable"]),
    (api, ["rate limit", "quota", "overloaded", "service unavailable", "server error"]),
    (infrastructure, ["config", "not found", "missing", "permission", "access denied"])]

/-- The category told by the words of a message, in any case of letters. -/
def ofMessage (message : String) : Category :=
  let lower := Chars.toLower message.toList
  match keywords.find? fun (_, words) => words.any fun w => Chars.contains lower w.toList with
  | some (category, _) => category
  | none => generation

end Category

structure Error where
  category : Category
  message : String
  /-- The wait in seconds that the provider asks for. -/
  retryAfter : Option Nat := none
  deriving Repr, DecidableEq

namespace Error

/-- The wording of an error with its category. -/
def text (e : Error) : String := e.category.name ++ " error: " ++ e.message

/-- An error of which only the wording is known. -/
def ofMessage (message : String) : Error := { category := .ofMessage message, message }

end Error

/-- The least number of characters of an answer that is looked into. -/
def leastContent : Nat := 10

/-- An answer of this many bytes is taken for an answer, whatever it says. -/
def longContent : Nat := 200

/-- Phrases of providers that report an error in place of an answer. -/
def errorPhrases : List String :=
  ["error occurred", "rate limited", "quota exceeded", "authentication failed",
    "service unavailable"]

/-- What is wrong with the content of an answer: it is too short, or a short error report. -/
def contentFault? (content : String) : Option Error :=
  let trimmed := Chars.trim content.toList
  if trimmed.length < leastContent then
    some
      { category := .emptyResponse
        message := "response too short (" ++ Nat.repr trimmed.length ++ " chars)" }
  else
    let lower := Chars.toLower trimmed
    match errorPhrases.find? fun phrase => Chars.contains lower phrase.toList with
    | some phrase =>
      if (String.ofList trimmed).utf8ByteSize < longContent then
        some
          { category := .emptyResponse
            message := "provider error text in response: " ++ phrase }
      else none
    | none => none

end RemapSynth.Chat
