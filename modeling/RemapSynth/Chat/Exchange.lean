/-
One request to a provider of models and what is made of the reply.

A provider may report an error with a status of its own, or inside a reply
that looks like a success. Text of a reply goes into a message only when it
holds nothing that looks like a key.
-/
import RemapSynth.Chat.Usage
import RemapSynth.Chat.Message
import RemapSynth.Chat.Error
import RemapSynth.Failure
import RemapSynth.Decimal.Layout
import RemapSynth.Text.Cut
import RemapSynth.Text.Numeral
import RemapSynth.Width

namespace RemapSynth.Chat

/-- What a model is asked. -/
structure Request where
  model : String
  messages : List Message
  maxTokens : Nat
  temperature : Float32
  deriving Repr

def Request.body (r : Request) : Json :=
  .obj
    [("model", .str r.model), ("messages", .arr (r.messages.map Message.toJson)),
      ("max_tokens", .int r.maxTokens), ("temperature", .float (Decimal.doubleOf r.temperature)),
      ("stream", .bool false)]

/-- An answer of a model. -/
structure Completion (Cost : Type := Float) where
  text : String
  usage : Option (Usage Cost)
  model : String
  deriving Repr

/-- What came back for a request. -/
inductive Reply
  | answered (status : Nat) (body : String)
  | unreachable
  | timedOut
  /-- The request could not even be made. -/
  | unsendable (reason : String)
  | broken (reason : String)
  deriving Repr, DecidableEq

/-- Marks of text that may hold a key. -/
def secretMarks : List String :=
  ["api_key", "apikey", "secret", "password", "credential", "bearer", "sk-"]

/-- The largest piece of a reply that is quoted, in characters. -/
def maxQuote : Nat := 200

/-- What stands in place of text that may hold a key. -/
def redaction : String := "(response details redacted - may contain sensitive data)"

/-- Text of a reply as it may be quoted. -/
def quotable (content : String) : String :=
  let cut := Text.truncate content maxQuote
  let lower := Chars.toLower cut.toList
  if secretMarks.any fun mark => Chars.contains lower mark.toList then redaction else cut

/-- How many words are looked at for the number of seconds. -/
def hintWords : Nat := 5

/-- The text from the first place where `needle` occurs. -/
def textFrom? (needle s : List Char) : Option (List Char) :=
  (Chars.breakOn needle s).map fun (before, _) => s.drop before.length

/-- The wait in seconds that a text asks for: a number between zero and the longest wait, in one of
the few words after the word that has `retry` in it. -/
def retryHint? (text : String) : Option Nat := do
  let rest ← textFrom? "retry".toList (Chars.toLower text.toList)
  let words := ((Chars.words rest).drop 1).take hintWords
  let numbers := words.filterMap fun word =>
    Chars.readUpTo? Width.maxWord (Chars.trimMatches (fun c => !Text.isNumeric c) word)
  numbers.find? fun n => 0 < n && n < 300

/-- The error that a status stands for. -/
def Error.ofStatus (status : Nat) (body : String) : Error :=
  if status = 429 then
    { category := .api
      message := "Rate limited by the LLM provider"
      retryAfter := retryHint? body }
  else if 500 ≤ status ∧ status ≤ 599 then
    { category := .api
      message := "Provider server error (" ++ Nat.repr status ++
        "). The service may be temporarily unavailable." }
  else if status = 401 ∨ status = 403 then
    { category := .infrastructure, message := "Invalid or unauthorized API key" }
  else
    { category := .infrastructure
      message := "API error " ++ Nat.repr status ++ ": " ++ quotable body }

/-- An error inside a reply: its message, and its status when it has one. -/
def reportedError? (tree : Json.Tree) : Option (String × Option Int) := do
  let [error] ← tree.record? 1 [["error"]] | none
  let [message, code] ← (← error).record? 1 [["message"], ["code"]] | none
  let message ← (← message).text?
  let code ← Json.Tree.orElse none
    (Json.Tree.nullable? (Json.Tree.intWithin? (-0x80000000) 0x7fffffff)) code
  return (message, code)

/-- The status of a reported error; a code that can be no status, and a missing one, count as a
broken provider. -/
def statusOf (code : Option Int) : Nat :=
  match code with
  | some n => if 0 ≤ n ∧ n ≤ 65535 then n.toNat else 500
  | none => 500

/-- The error that a reply reports. -/
def Error.ofReport (message : String) (code : Option Int) : Error :=
  { Error.ofStatus (statusOf code) message with
    message := "Provider error: " ++ Text.truncate message maxQuote }

/-- The first choice of a reply: its content and its refusal. -/
structure Choice where
  content : Option String
  refusal : Option String
  deriving Repr, DecidableEq

def choice? (tree : Json.Tree) : Option Choice := do
  let [message] ← tree.record? 1 [["message"]] | none
  let [content, refusal] ← (← message).record? 0 [["content"], ["refusal"]] | none
  let text := Json.Tree.orElse none (Json.Tree.nullable? Json.Tree.text?)
  return ⟨← text content, ← text refusal⟩

/-- The choices of a reply, and its usage. -/
def choices? (tree : Json.Tree) : Option (List Choice × Option Usage) := do
  let [choices, usage] ← tree.record? 2 [["choices"], ["usage"]] | none
  let choices ← Json.Tree.orElse [] (Json.Tree.list? choice?) choices
  let usage ← Json.Tree.orElse none (Json.Tree.nullable? Usage.ofTree?) usage
  return (choices, usage)

/-- A reply that is no completion, for the reason given. -/
def Error.unreadable (reason body : String) : Error where
  category := .generation
  message := "Failed to parse provider response: " ++ reason ++ "\n" ++ quotable body

/-- A refusal of the model. -/
def Error.refused (refusal : String) : Error where
  category := .generation
  message := "Request was refused: " ++ Text.truncate refusal maxQuote

def Completion.ofTree (model body : String) (tree : Json.Tree) : Except Error Completion :=
  match reportedError? tree with
  | some (message, code) => .error (.ofReport message code)
  | none =>
    match choices? tree with
    | none => .error (.unreadable Json.Fault.wrongShape.message body)
    | some (choices, usage) =>
      match choices with
      | ⟨_, some refusal⟩ :: _ => .error (.refused refusal)
      | ⟨content, none⟩ :: _ => .ok ⟨content.getD "", usage, model⟩
      | [] => .ok ⟨"", usage, model⟩

def Completion.ofBody (model body : String) : Except Error Completion :=
  match Json.Tree.scan body.toList with
  | .error (fault, rest) => .error (.unreadable (Json.faultMessage body.toList fault rest) body)
  | .ok tree => ofTree model body tree

/-- What came back, as a completion or an error. -/
def Completion.ofReply (model : String) : Reply → Except Error Completion
  | .answered status body =>
    if 200 ≤ status ∧ status ≤ 299 then ofBody model body else .error (.ofStatus status body)
  | .unreachable =>
    .error
      { category := .network
        message := "Could not connect to the LLM provider. Check your network." }
  | .timedOut => .error { category := .network, message := "LLM request timed out" }
  | .unsendable reason => .error { category := .infrastructure, message := reason }
  | .broken reason => .error (.ofMessage reason)

/-- Where requests go, and the key that goes with them. -/
structure Client where
  url : String
  key : String
  deriving Repr, DecidableEq

namespace Client

/-- A client with the key found under a name; a key that is blank is none. -/
def withKey (url keyName : String) (key : Option String) : Except Failure Client :=
  match key with
  | some key =>
    if Text.isBlankText key then .error (missing keyName) else .ok ⟨url, key⟩
  | none => .error (missing keyName)
where
  /-- The failure of a key that is not there. -/
  missing (keyName : String) : Failure :=
    .infrastructure ("No API key configured. Set " ++ keyName ++ " to continue.")

/-- The path of a URL; none for what is no URL. -/
def path? (url : String) : Option String :=
  let s := url.toList
  match ["http://".toList, "https://".toList].findSome? fun start => Chars.afterStart? start s with
  | none => none
  | some rest =>
    let host := rest.takeWhile fun c => c ≠ '/' ∧ c ≠ '?' ∧ c ≠ '#'
    if host.isEmpty || rest.any Text.isBlank then none
    else
      let path := rest.drop host.length
      some (if path.head? = some '/' then .ofList path else .ofList ('/' :: path))

/-- Whether a text can stand in a header: it has no line break and no other control character but
tabs. -/
def isHeaderText (s : String) : Bool :=
  s.toList.all fun c => c = '\t' || (32 ≤ c.toNat && c.toNat ≠ 127)

/-- The value of the header that carries the key. -/
def authorization (c : Client) : String := "Bearer " ++ c.key

/-- Why a request cannot be made at all. -/
def unsendable? (c : Client) : Option String :=
  if (path? c.url).isNone then some "builder error: relative URL without a base"
  else if !isHeaderText c.key then some "builder error: failed to parse header value"
  else none

end Client
end RemapSynth.Chat
