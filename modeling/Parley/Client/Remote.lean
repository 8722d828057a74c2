import Parley.Client.Chat
import Parley.Client.Usage

namespace Parley

structure Remote where
  baseUrl : String
  key : String
  model : String
  deriving DecidableEq

namespace Remote

def authorization (r : Remote) : String :=
  let key := (r.key.toList.reverse.dropWhile (fun c => c == ' ' || c == '\t')).reverse
  if key.isEmpty then "Bearer" else "Bearer " ++ String.ofList key

/-- The reply in an answer is the content of its first choice. -/
def reply (answer : Chat.Answer) : Except ModelError String :=
  match answer.contents.head?.join with
  | some content => .ok content
  | none => .error .emptyResponse

def count (usage : TokenUsage) (answer : Chat.Answer) : TokenUsage :=
  match answer.counts with
  | some c => usage.add c.prompt.toUInt64 c.completion.toUInt64
  | none => usage

def complete (r : Remote) (b : Chat.Builders) (create : Chat.Create) (usage : TokenUsage)
    (messages : List Message) : Except ModelError String × TokenUsage :=
  match b.body r.model messages with
  | .error e => (.error e, usage)
  | .ok body =>
    match create body with
    | .error text => (.error (.request text), usage)
    | .ok answer => (reply answer, count usage answer)

variable {r : Remote} {b : Chat.Builders} {create : Chat.Create} {messages : List Message}
  {body : Json}

theorem complete_answered {answer : Chat.Answer} (usage : TokenUsage)
    (hb : b.body r.model messages = .ok body) (hc : create body = .ok answer) :
    r.complete b create usage messages = (reply answer, count usage answer) := by
  simp only [complete, hb, hc]

theorem complete_failed {text : String} (usage : TokenUsage)
    (hb : b.body r.model messages = .ok body) (hc : create body = .error text) :
    r.complete b create usage messages = (.error (.request text), usage) := by
  simp only [complete, hb, hc]

theorem complete_refused {e : ModelError} (create : Chat.Create) (usage : TokenUsage)
    (hb : b.body r.model messages = .error e) :
    r.complete b create usage messages = (.error e, usage) := by
  simp only [complete, hb]

end Remote

end Parley
