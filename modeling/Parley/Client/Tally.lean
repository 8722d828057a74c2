import Parley.Client.Remote

namespace Parley

inductive Increment
  | prompt (n : UInt64)
  | completion (n : UInt64)
  | total (n : UInt64)
  deriving DecidableEq

namespace TokenUsage

def increase (u : TokenUsage) : Increment → TokenUsage
  | .prompt n => u.addPrompt n
  | .completion n => u.addCompletion n
  | .total n => u.addTotal n

def increments (prompt completion : UInt64) : List Increment :=
  [.prompt prompt, .completion completion, .total (prompt + completion)]

def addCounts (u : TokenUsage) (c : Chat.Counts) : TokenUsage :=
  u.add c.prompt.toUInt64 c.completion.toUInt64

end TokenUsage

structure Attempt where
  messages : List Message
  create : Chat.Create

/-- The answer that a call receives. There is none where the request is refused or fails. -/
def Attempt.received? (b : Chat.Builders) (r : Remote) (a : Attempt) : Option Chat.Answer :=
  match b.body r.model a.messages with
  | .ok body => (a.create body).toOption
  | .error _ => none

/-- The counters of a client behind calls one after the other. -/
def Remote.usageAfter (r : Remote) (b : Chat.Builders) (usage : TokenUsage)
    (attempts : List Attempt) : TokenUsage :=
  attempts.foldl (fun usage a => (r.complete b a.create usage a.messages).2) usage

end Parley
