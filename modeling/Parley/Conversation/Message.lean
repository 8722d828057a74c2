namespace Parley

inductive Role
  | user
  | assistant
  | system
  deriving DecidableEq, Repr

namespace Role

def all : List Role := [user, assistant, system]

def name : Role → String
  | user => "User"
  | assistant => "Assistant"
  | system => "System"

end Role

structure Message where
  role : Role
  content : String
  deriving DecidableEq, Repr

structure ConversationKey where
  text : String
  deriving DecidableEq, Repr

end Parley
