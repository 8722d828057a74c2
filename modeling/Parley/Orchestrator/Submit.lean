import Parley.Orchestrator.State

namespace Parley.State

/-- Takes back the user message of a submission, if nothing was written behind it. -/
def rollback (s : State) (p : Pending) : State :=
  if s.store.last? p.key = some p.userMessage then s.write p.id (.removeLast p.key)
  else s.emit (.rollbackSkipped p.key)

def abandon (s : State) (p : Pending) : State :=
  let s := { s with current := none, cancelled := p.id :: s.cancelled }.rollback p
  { s with running := false }.emit (.cancelled p.key)

/-- Puts the result of a call into the conversation. The result of a submission that is not current
any more changes nothing. -/
def land (s : State) (job : Job) (result : Except CallFailure String) (now : Instant) :
    State × Completion :=
  match s.current with
  | none => (s, ⟨job.request, .skipped⟩)
  | some p =>
    if p.id = job.id then
      let s := { s with current := none, running := false }
      match result with
      | .ok content =>
        let elapsed : Duration := ⟨now - job.accepted⟩
        let message : Message := ⟨.assistant, content⟩
        (s.write p.id (.append p.key message),
          ⟨{ job.request with elapsed := some elapsed }, .generated ⟨message, elapsed⟩⟩)
      | .error failure =>
        let error := classify failure job.request.model.provider
        let s := if error.rollsBack then s.rollback p else s
        if error.isReportable then
          (s.emit (.reported p.key error failure), ⟨job.request, .failed error⟩)
        else (s, ⟨job.request, .skipped⟩)
    else (s, ⟨job.request, .skipped⟩)

def settle (s : State) (job : Job) (result : Except CallFailure String) (now : Instant) :
    State × Completion :=
  let (s, completion) := s.land job result now
  (s.emit (.settled job.id result completion.outcome), completion)

def noWorker : CallFailure := .model (.aborted "prompt worker is not running")

/-- Writes what the submission adds to its conversation: the opening message if the conversation is
empty and the model accepts it, and the user message. -/
def record (setup : Setup) (s : State) (id : Nat) (request : Request) : State :=
  let s :=
    if s.store.isEmpty request.key && request.model.acceptsSystem then
      s.write id (.append request.key setup.primer)
    else s
  s.write id (.append request.key (setup.compose request.input request.attachments))

def accept (setup : Setup) (s : State) (ticket : Nat) (request : Request) (now : Instant) :
    State :=
  let id := s.lastId + 1
  let s := { s with running := true, lastId := id }.record setup id request
  let job : Job :=
    ⟨id, ticket, { request with elapsed := none }, s.store.history request.key, now⟩
  let user := setup.compose request.input request.attachments
  let s := { s with current := some ⟨id, request.key, user⟩ }.emit (.accepted job)
  if s.worker.isGone then
    let (s, completion) := s.settle job (.error noWorker) now
    s.emit (.resolved ticket completion)
  else { s with queue := s.queue ++ [job] }

/-- The ticket of a submission is the number of those before it. -/
def submit (setup : Setup) (s : State) (request : Request) (now : Instant) : State :=
  let ticket := s.tickets
  let s := { s with tickets := ticket + 1 }
  match s.current with
  | some prior => (s.abandon prior).emit (.resolved ticket ⟨request, .skipped⟩)
  | none => s.accept setup ticket request now

def cancelCurrent (s : State) : State :=
  match s.current with
  | some p => s.abandon p
  | none => s

/-- Cancels, and lets the worker run out. -/
def drop (s : State) : State := { s.cancelCurrent with closed := true }

end Parley.State
