import Parley.Orchestrator.Submit

namespace Parley.State

def isCancelled (s : State) (job : Job) : Bool := s.cancelled.contains job.id

/-- Takes the next job. A job that is cancelled by then is not called. -/
def take (s : State) (now : Instant) : Option State :=
  match s.worker, s.queue with
  | .idle, job :: rest =>
    let s := { s with queue := rest }
    if s.isCancelled job then some { s with worker := .ended job (.error .cancelled) false }
    else some ({ s with worker := .calling job now }.emit (.called job.id))
  | _, _ => none

def finish (s : State) (result : Except ModelError String) : Option State :=
  match s.worker with
  | .calling job _ =>
    some ({ s with worker := .ended job (result.mapError CallFailure.model) false }.emit
      (.returned job.id (some result)))
  | _ => none

/-- The seconds after which every call is over, whatever its own limit: thirty years of 365 days. -/
def longestCall : Nat := 30 * 365 * 86400

def deadline (job : Job) (started : Instant) : Instant :=
  started + (Duration.ofSeconds (min job.request.effectiveTimeout longestCall)).nanoseconds

def expire (s : State) (now : Instant) : Option State :=
  match s.worker with
  | .calling job started =>
    if deadline job started ≤ now then
      some { s with worker := .ended job (.error (.timeout job.request.effectiveTimeout)) true }
    else none
  | _ => none

def interrupt (s : State) : Option State :=
  match s.worker with
  | .calling job _ =>
    if s.isCancelled job then some { s with worker := .ended job (.error .cancelled) true }
    else none
  | _ => none

def conclude (s : State) (now : Instant) : Option State :=
  match s.worker with
  | .ended job result losing =>
    let (s, completion) := s.settle job result now
    some { s with
      worker := .settled { job with request := completion.request } completion.outcome losing }
  | _ => none

/-- The end of the worker, wherever it is: what it has not delivered is lost, what waits for it is
skipped, and a call that is executing goes on by itself. -/
def tearDown (s : State) : Option State :=
  if s.worker.isGone then none
  else
    let lost := s.worker.undelivered?.toList.map (fun job => Event.stopped job.ticket)
    let skipped := s.queue.map (fun job => Event.resolved job.ticket ⟨job.request, .skipped⟩)
    some { s with
      worker := .gone s.worker.executing?
      queue := []
      trace := s.trace ++ lost ++ skipped }

/-- The audit record is made. A client that fails to tell its token counts takes the worker down. -/
def audit (s : State) (tokens : Option TokenUsage) : Option State :=
  match s.worker with
  | .settled job outcome losing =>
    match tokens with
    | some tokens =>
      let record : Audit :=
        ⟨job.request.key, job.request.model, .ofOutcome outcome, tokens⟩
      some ({ s with worker := .audited job outcome losing }.emit (.audited job.id record))
    | none => s.tearDown
  | _ => none

/-- The caller gets its answer, before a losing call has ended. -/
def deliver (s : State) : Option State :=
  match s.worker with
  | .audited job outcome losing =>
    some ({ s with worker := if losing then .draining job else .idle }.emit
      (.resolved job.ticket ⟨job.request, outcome⟩))
  | _ => none

/-- A losing call has ended, by itself or because it was told to stop. Its reply goes nowhere. -/
def drained (s : State) (reply : Option (Except ModelError String)) : Option State :=
  match s.worker with
  | .draining job => some ({ s with worker := .idle }.emit (.returned job.id reply))
  | .gone (some job) => some ({ s with worker := .gone none }.emit (.returned job.id reply))
  | _ => none

def runOut (s : State) : Option State :=
  match s.worker, s.queue with
  | .idle, [] => if s.closed then some { s with worker := .gone none } else none
  | _, _ => none

end Parley.State
