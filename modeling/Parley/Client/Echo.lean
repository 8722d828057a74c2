import Parley.Conversation.Message

namespace Parley

def lastUserText (messages : List Message) : Option String :=
  (messages.reverse.find? (fun m => m.role = .user)).map Message.content

def echo (messages : List Message) : String :=
  "Echo from Mock: " ++ (lastUserText messages).getD "(no input)"

end Parley
