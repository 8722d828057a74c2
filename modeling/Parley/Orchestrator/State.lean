import Parley.Client.Usage
import Parley.Conversation.Store
import Parley.Log
import Parley.Request

namespace Parley

abbrev Instant := Nat

def formattingSuffix : String :=
  "\nAlways use markdown to format your answer. Use **bold** for important terms, `inline code` " ++
  "for identifiers and fenced code blocks with a language tag for source code."

def defaultSystemPrompt : String := "You are a helpful assistant."

structure Setup where
  systemPrompt : String
  compose : Composer

def Setup.primer (setup : Setup) : Message := ⟨.system, setup.systemPrompt ++ formattingSuffix⟩

structure Pending where
  id : Nat
  key : ConversationKey
  userMessage : Message
  deriving DecidableEq, Repr

structure Job where
  id : Nat
  ticket : Nat
  request : Request
  messages : List Message
  accepted : Instant
  deriving DecidableEq, Repr

/-- The worker, between its atomic steps. A call that lost to the deadline or to a cancellation may
outlive its own submission; `losing` marks that it does. -/
inductive Worker
  | idle
  | calling (job : Job) (started : Instant)
  | ended (job : Job) (result : Except CallFailure String) (losing : Bool)
  | settled (job : Job) (outcome : Outcome) (losing : Bool)
  | audited (job : Job) (outcome : Outcome) (losing : Bool)
  | draining (job : Job)
  /-- No worker any more; a call may be left behind. -/
  | gone (orphan : Option Job)

namespace Worker

def undelivered? : Worker → Option Job
  | calling job _ | ended job _ _ | settled job _ _ | audited job _ _ => some job
  | idle | draining _ | gone _ => none

def executing? : Worker → Option Job
  | calling job _ | draining job => some job
  | ended job _ losing | settled job _ losing | audited job _ losing =>
    if losing then some job else none
  | gone orphan => orphan
  | idle => none

def isGone : Worker → Bool
  | gone _ => true
  | _ => false

theorem eq_gone {worker : Worker} (h : worker.isGone = true) : ∃ orphan, worker = gone orphan := by
  cases worker with
  | gone orphan => exact ⟨orphan, rfl⟩
  | _ => cases h

end Worker

inductive Write
  | append (key : ConversationKey) (message : Message)
  | removeLast (key : ConversationKey)
  | clear (key : ConversationKey)
  deriving DecidableEq, Repr

def Write.key : Write → ConversationKey
  | append key _ | removeLast key | clear key => key

def Store.apply (s : Store) : Write → Store
  | .append key message => s.append key message
  | .removeLast key => s.removeLast key
  | .clear key => s.clear key

inductive AuditLabel
  | ok
  | timeout
  | error
  | skipped
  deriving DecidableEq, Repr

namespace AuditLabel

def name : AuditLabel → String
  | ok => "ok"
  | timeout => "timeout"
  | error => "error"
  | skipped => "skipped"

def ofOutcome : Outcome → AuditLabel
  | .generated _ => ok
  | .failed (.timeout _) => timeout
  | .failed _ => error
  | .skipped => skipped

end AuditLabel

structure Audit where
  key : ConversationKey
  model : LanguageModel
  label : AuditLabel
  tokens : TokenUsage
  deriving DecidableEq, Repr

inductive Event
  | accepted (job : Job)
  | wrote (id : Nat) (write : Write)
  | cancelled (key : ConversationKey)
  | rollbackSkipped (key : ConversationKey)
  | called (id : Nat)
  /-- The call of submission `id` is over. There is nothing to return if it was stopped. -/
  | returned (id : Nat) (reply : Option (Except ModelError String))
  | settled (id : Nat) (result : Except CallFailure String) (outcome : Outcome)
  | reported (key : ConversationKey) (error : PromptError) (failure : CallFailure)
  | audited (id : Nat) (audit : Audit)
  | resolved (ticket : Nat) (completion : Completion)
  /-- The caller learns only that there is no worker any more. -/
  | stopped (ticket : Nat)
  deriving Repr

/-- The log entry that an event makes, if it makes one. Audit records are kept apart. -/
def Event.log? : Event → Option LogEntry
  | cancelled _ => some ⟨.info, "Cancelled running prompt"⟩
  | rollbackSkipped _ =>
    some ⟨.warn, "Last message is not the pending user message, skipping rollback"⟩
  | reported _ error failure =>
    some ⟨.error,
      s!"Error occurred while processing chat message: {error.text} ({failure.text})"⟩
  | _ => none

structure State where
  current : Option Pending
  /-- The id of the submission accepted last. -/
  lastId : Nat
  running : Bool
  cancelled : List Nat
  queue : List Job
  worker : Worker
  /-- Nobody can submit any more. -/
  closed : Bool
  tickets : Nat
  store : Store
  trace : List Event

namespace State

def initial (store : Store) : State :=
  ⟨none, 0, false, [], [], .idle, false, 0, store, []⟩

def emit (s : State) (event : Event) : State := { s with trace := s.trace ++ [event] }

def write (s : State) (id : Nat) (w : Write) : State :=
  { s with store := s.store.apply w }.emit (.wrote id w)

end State

end Parley
