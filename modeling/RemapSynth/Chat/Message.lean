/-
Messages of a conversation with a model.
-/
import RemapSynth.Json.Value

namespace RemapSynth.Chat

/-- Who speaks. -/
inductive Role
  | system
  | user
  | assistant
  deriving Repr, DecidableEq

def Role.name : Role → String
  | system => "system"
  | user => "user"
  | assistant => "assistant"

structure Message where
  role : Role
  content : String
  deriving Repr, DecidableEq

namespace Message

/-- An instruction that holds for the whole conversation. -/
def system (content : String) : Message := ⟨.system, content⟩

def user (content : String) : Message := ⟨.user, content⟩

def assistant (content : String) : Message := ⟨.assistant, content⟩

/-- The message as a provider is sent it. -/
def toJson (m : Message) : Json := .obj [("role", .str m.role.name), ("content", .str m.content)]

end Message
end RemapSynth.Chat
