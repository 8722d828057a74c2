import Parley.Conversation.Store

namespace Parley

inductive Operation
  | append (message : Message)
  | removeLast
  | readAll
  | clear
  | size
  | isEmpty
  deriving DecidableEq, Repr

namespace Operation

inductive Answer
  | done
  | removed (message : Option Message)
  | messages (messages : List Message)
  | count (n : Nat)
  | flag (b : Bool)
  deriving DecidableEq, Repr

def appends : Operation → Bool
  | append _ => true
  | _ => false

def onList (messages : List Message) : Operation → List Message × Answer
  | append message => (messages ++ [message], .done)
  | removeLast => (messages.dropLast, .removed messages.getLast?)
  | readAll => (messages, .messages messages)
  | clear => ([], .done)
  | size => (messages, .count messages.length)
  | isEmpty => (messages, .flag messages.isEmpty)

def listAnswers (messages : List Message) : List Operation → List Answer
  | [] => []
  | op :: rest => (op.onList messages).2 :: listAnswers (op.onList messages).1 rest

def on (key : ConversationKey) (steps : List (ConversationKey × Operation)) : List Operation :=
  (steps.filter (fun step => step.1 = key)).map Prod.snd

def Answer.about (key : ConversationKey) (answers : List (ConversationKey × Answer)) :
    List Answer :=
  (answers.filter (fun answer => answer.1 = key)).map Prod.snd

end Operation

namespace Store

def perform (s : Store) (key : ConversationKey) : Operation → Store × Operation.Answer
  | .append message => (s.append key message, .done)
  | .removeLast => (s.removeLast key, .removed (s.last? key))
  | .readAll => (s, .messages (s.history key))
  | .clear => (s.clear key, .done)
  | .size => (s, .count (s.size key))
  | .isEmpty => (s, .flag (s.isEmpty key))

def after (s : Store) : List (ConversationKey × Operation) → Store
  | [] => s
  | (key, op) :: rest => (s.perform key op).1.after rest

def answers (s : Store) :
    List (ConversationKey × Operation) → List (ConversationKey × Operation.Answer)
  | [] => []
  | (key, op) :: rest => (key, (s.perform key op).2) :: (s.perform key op).1.answers rest

end Store

end Parley
