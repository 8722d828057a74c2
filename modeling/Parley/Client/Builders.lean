import Parley.Client.Remote

namespace Parley.Chat

def Says (j : Json) (role content : String) : Prop :=
  j.get? "role" = some (.str role) ∧ j.get? "content" = some (.str content)

/-- Builders that take any text and write down what they are given. -/
structure Builders.Faithful (b : Builders) : Prop where
  systemMessage : ∀ content, ∃ j, b.systemMessage content = .ok j ∧ Says j "system" content
  userMessage : ∀ content, ∃ j, b.userMessage content = .ok j ∧ Says j "user" content
  assistantMessage :
    ∀ content, ∃ j, b.assistantMessage content = .ok j ∧ Says j "assistant" content
  request : ∀ model items, ∃ j, b.request model items = .ok j ∧
    j.get? "model" = some (.str model) ∧ j.get? "messages" = some (.arr items)

def member (j : Json) (name : String) (read : Json → Option α) : Option α :=
  (j.get? name).bind read

def items? (read : Json → Option α) : Json → Option (List α)
  | .arr items => items.mapM read
  | _ => none

def taggedRole? (tag : String) : Option Role := Role.all.find? (fun role => roleTag role = tag)

def readMessage (j : Json) : Option Message := do
  let role ← member j "role" (fun v => v.str?.bind taggedRole?)
  let content ← member j "content" Json.str?
  some ⟨role, content⟩

def readConversation (j : Json) : Option (List Message) := member j "messages" (items? readMessage)

def Carries (j : Json) (model : String) (messages : List Message) : Prop :=
  j.get? "model" = some (.str model) ∧ readConversation j = some messages

end Parley.Chat
