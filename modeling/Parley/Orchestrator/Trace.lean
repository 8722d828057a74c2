import Parley.Orchestrator.State

namespace Parley

namespace Event

@[simp] def accepted? : Event → Option Job
  | accepted job => some job
  | _ => none

@[simp] def called? : Event → Option Nat
  | called id => some id
  | _ => none

@[simp] def returned? : Event → Option Nat
  | returned id _ => some id
  | _ => none

@[simp] def replied? : Event → Option (Nat × String)
  | returned id (some (.ok text)) => some (id, text)
  | _ => none

@[simp] def generated? : Event → Option Nat
  | settled id _ (.generated _) => some id
  | _ => none

@[simp] def settled? : Event → Option (Nat × Except CallFailure String × Outcome)
  | settled id result outcome => some (id, result, outcome)
  | _ => none

@[simp] def resolved? : Event → Option (Nat × Completion)
  | resolved ticket completion => some (ticket, completion)
  | _ => none

@[simp] def cancelled? : Event → Option ConversationKey
  | cancelled key => some key
  | _ => none

@[simp] def rollbackSkipped? : Event → Option ConversationKey
  | rollbackSkipped key => some key
  | _ => none

@[simp] def audited? : Event → Option (Nat × Audit)
  | audited id audit => some (id, audit)
  | _ => none

@[simp] def wrote? : Event → Option (Nat × Write)
  | wrote id write => some (id, write)
  | _ => none

@[simp] def answered? : Event → Option Nat
  | resolved ticket _ | stopped ticket => some ticket
  | _ => none

@[simp] def stopped? : Event → Option Nat
  | stopped ticket => some ticket
  | _ => none

end Event

def Worker.unsettled? : Worker → Option Job
  | calling job _ | ended job _ _ => some job
  | _ => none

namespace State

def accepted (s : State) : List Job := s.trace.filterMap Event.accepted?

def called (s : State) : List Nat := s.trace.filterMap Event.called?

def returned (s : State) : List Nat := s.trace.filterMap Event.returned?

/-- The calls that go on, those that nobody waits for included. -/
def executing (s : State) : List Nat := s.called.filter (fun id => id ∉ s.returned)

def replies (s : State) : List (Nat × String) := s.trace.filterMap Event.replied?

def generated (s : State) : List Nat := s.trace.filterMap Event.generated?

def submissions (s : State) (key : ConversationKey) : List Job :=
  s.accepted.filter (fun job => job.request.key = key)

def settlements (s : State) : List (Nat × Except CallFailure String × Outcome) :=
  s.trace.filterMap Event.settled?

def settledIds (s : State) : List Nat := s.settlements.map Prod.fst

def cancellations (s : State) : List ConversationKey := s.trace.filterMap Event.cancelled?

def skippedRollbacks (s : State) : List ConversationKey := s.trace.filterMap Event.rollbackSkipped?

def audits (s : State) : List (Nat × Audit) := s.trace.filterMap Event.audited?

def labelled (s : State) (label : AuditLabel) : Nat :=
  (s.audits.map (fun record => record.2.label)).count label

def writes (s : State) : List (Nat × Write) := s.trace.filterMap Event.wrote?

/-- What was changed on behalf of submission `id`. -/
def writesOf (s : State) (id : Nat) : List Write :=
  (s.writes.filter (fun w => w.1 = id)).map Prod.snd

def completions (s : State) : List (Nat × Completion) := s.trace.filterMap Event.resolved?

def logged (s : State) : List LogEntry := s.trace.filterMap Event.log?

def answered (s : State) : List Nat := s.trace.filterMap Event.answered?

/-- The tickets of the submissions that were lost in the hands of the worker. -/
def stops (s : State) : List Nat := s.trace.filterMap Event.stopped?

def unsettled (s : State) : List Job := s.worker.unsettled?.toList ++ s.queue

/-- The accepted submissions whose callers still wait. -/
def undelivered (s : State) : List Job := s.worker.undelivered?.toList ++ s.queue

end State

end Parley
