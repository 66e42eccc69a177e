/-
A conversation that stays bounded. The newest turns are kept word for word;
each older one becomes a line that sums it up, and only as many of those
are kept as there may be turns.
-/
import RemapSynth.Chat.Message
import RemapSynth.Text.Cut
import RemapSynth.Text.Line

namespace RemapSynth.Chat

/-- What was asked, and what the model answered. -/
structure Turn where
  asked : String
  answered : String
  deriving Repr, DecidableEq

/-- The largest summary of a turn, in characters. -/
def maxDigest : Nat := 160

/-- The first line that is not blank, trimmed. -/
def firstLine (s : String) : String :=
  ((Text.lines s).find? fun line => !Text.isBlankText line).elim "" Text.trim

/-- Whether a line of an answer is counted as code: it is not blank, opens no fence and is no
comment. -/
def isCodeLine (line : List Char) : Bool :=
  let line := Chars.trim line
  !line.isEmpty && !"```".toList.isPrefixOf line && line.head? != some '#'

/-- The one-line summary of a turn. -/
def Turn.digest (t : Turn) : String :=
  let lines := (Chars.lines t.answered.toList).filter isCodeLine
  Text.truncate
    (s!"asked: {firstLine t.asked} | answered with " ++ Nat.repr lines.length ++ " code lines")
    maxDigest

structure Conversation where
  /-- How many turns are kept word for word. -/
  limit : Nat
  system : Option String := none
  /-- The summaries of older turns, oldest first. -/
  digests : List String := []
  /-- The turns kept word for word, oldest first. -/
  turns : List Turn := []
  /-- How many turns there were in all. -/
  count : Nat := 0
  deriving Repr, DecidableEq

namespace Conversation

/-- A conversation that keeps `limit` turns, one at the least. -/
def new (limit : Nat) : Conversation := { limit := max limit 1 }

/-- The limit of a conversation for which none is asked. -/
def usualLimit : Nat := 8

def instruct (c : Conversation) (content : String) : Conversation := { c with system := content }

def last {α : Type} (n : Nat) (xs : List α) : List α := xs.drop (xs.length - n)

def push (c : Conversation) (turn : Turn) : Conversation :=
  let turns := c.turns ++ [turn]
  let old := turns.take (turns.length - c.limit)
  { c with
    turns := last c.limit turns
    digests := last c.limit (c.digests ++ old.map Turn.digest)
    count := c.count + 1 }

/-- The message that holds the summaries. -/
def digestText (digests : List String) : String :=
  "Summary of earlier exchanges in this session:\n" ++
    String.join (digests.map fun digest => "- " ++ digest ++ "\n")

/-- What comes before the next message: instruction, summaries, recent turns. -/
def context (c : Conversation) : List Message :=
  (c.system.map Message.system).toList ++
    (if c.digests.isEmpty then [] else [.system (digestText c.digests)]) ++
    c.turns.flatMap fun t => [.user t.asked, .assistant t.answered]

/-- The messages to send when `next` is to be said. -/
def messagesFor (c : Conversation) (next : String) : List Message := c.context ++ [.user next]

def size (c : Conversation) : Nat := c.context.length

def isEmpty (c : Conversation) : Bool := c.count == 0

end Conversation
end RemapSynth.Chat
