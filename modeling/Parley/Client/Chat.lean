import Parley.Conversation.Message
import Parley.Failure
import Parley.Json.Basic

namespace Parley.Chat

def roleTag : Role → String
  | .user => "user"
  | .assistant => "assistant"
  | .system => "system"

def messageJson (m : Message) : Json :=
  Json.object [("role", .str (roleTag m.role)), ("content", .str m.content)]

/-- What a library makes of the parts of a request, or why it refuses them. -/
structure Builders where
  systemMessage : String → Except String Json
  userMessage : String → Except String Json
  assistantMessage : String → Except String Json
  /-- The whole, from the name of the model and the messages. -/
  request : String → List Json → Except String Json

namespace Builders

def checked (built : Except String Json) : Except ModelError Json :=
  built.mapError .invalidRequest

def entry (b : Builders) (m : Message) : Except ModelError Json :=
  match m.role with
  | .system => checked (b.systemMessage m.content)
  | .user => checked (b.userMessage m.content)
  | .assistant => checked (b.assistantMessage m.content)

def entries (b : Builders) (messages : List Message) : Except ModelError (List Json) :=
  messages.mapM b.entry

def body (b : Builders) (model : String) (messages : List Message) : Except ModelError Json := do
  checked (b.request model (← b.entries messages))

def plain : Builders where
  systemMessage content := .ok (messageJson ⟨.system, content⟩)
  userMessage content := .ok (messageJson ⟨.user, content⟩)
  assistantMessage content := .ok (messageJson ⟨.assistant, content⟩)
  request model items := .ok (Json.object [("model", .str model), ("messages", .arr items)])

end Builders

structure Counts where
  prompt : UInt32
  completion : UInt32
  deriving DecidableEq

structure Answer where
  contents : List (Option String)
  counts : Option Counts
  deriving DecidableEq

/-- What a library makes of a request: an answer, or why there is none. How it sends the request, how
often, and what it takes for an answer are its own affair. -/
abbrev Create := Json → Except String Answer

end Parley.Chat
