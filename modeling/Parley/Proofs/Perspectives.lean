import Parley.Proofs.Views

namespace Parley

/-- How somebody sees an orchestrator: the worker as far as it shows, and the events as they show,
if they do. What shows, shows completely, and whether there is a worker always does. -/
structure Perspective where
  worker : Worker → Worker
  event : Event → Option Event
  worker_worker : ∀ w, worker (worker w) = worker w
  event_event : ∀ e, (event e).bind event = event e
  isGone_worker : ∀ w, (worker w).isGone = w.isGone

namespace Perspective

attribute [simp] worker_worker isGone_worker

@[simp] theorem filterMap_event (v : Perspective) (events : List Event) :
    (events.filterMap v.event).filterMap v.event = events.filterMap v.event := by
  rw [List.filterMap_filterMap]
  exact congrArg (fun g => events.filterMap g) (funext v.event_event)

end Perspective

namespace State

variable {setup : Setup} {s : State} (v : Perspective)

def through (v : Perspective) (s : State) : State :=
  { s with worker := v.worker s.worker, trace := s.trace.filterMap v.event }

@[simp] theorem through_through : (s.through v).through v = s.through v := by
  simp [through]

/-- A view of the trace that tells nothing of what does not show. -/
theorem filterMap_through {α : Type} {f : Event → Option α} (hf : ∀ e, (v.event e).bind f = f e)
    (s : State) : (s.through v).trace.filterMap f = s.trace.filterMap f := by
  rw [through, List.filterMap_filterMap]
  exact congrArg (fun g => s.trace.filterMap g) (funext hf)

theorem through_abandon (p : Pending) :
    ((s.through v).abandon p).through v = (s.abandon p).through v := by
  rw [abandon_eq, abandon_eq]
  simp [through]

theorem through_cancelCurrent :
    (s.through v).cancelCurrent.through v = s.cancelCurrent.through v := by
  unfold cancelCurrent
  rw [show (s.through v).current = s.current from rfl]
  cases s.current with
  | none => exact through_through v
  | some p => exact through_abandon v p

theorem through_drop : (s.through v).drop.through v = s.drop.through v :=
  congrArg (fun u : State => { u with closed := true }) (through_cancelCurrent v)

theorem through_accept (request : Request) (now : Instant) :
    ({ s.through v with tickets := s.tickets + 1 }.accept setup s.tickets request now).through v =
      ({ s with tickets := s.tickets + 1 }.accept setup s.tickets request now).through v := by
  have hseen := @accept_eq setup (s.through v) request now
  rw [accept_eq]
  refine (congrArg (through v) hseen).trans ?_
  rw [show (s.through v).worker.isGone = s.worker.isGone from v.isGone_worker s.worker]
  cases s.worker.isGone with
  | false => simp [admitted, through, Setup.job, Setup.acceptance]
  | true =>
    have hlost : noWorker ≠ .cancelled := by simp [noWorker]
    rw [if_pos rfl, if_pos rfl,
      settle_failure (setup.job s request now) noWorker now rfl rfl hlost,
      settle_failure (setup.job (s.through v) request now) noWorker now rfl rfl hlost]
    simp [admitted, through, emit, Setup.job, Setup.acceptance]

theorem through_submit (request : Request) (now : Instant) :
    ((s.through v).submit setup request now).through v = (s.submit setup request now).through v := by
  cases hc : s.current with
  | none =>
    rw [submit_idle hc, submit_idle (s := s.through v) hc]
    exact through_accept v request now
  | some p =>
    rw [submit_busy hc, submit_busy (s := s.through v) hc, abandon_eq, abandon_eq]
    simp [through, emit]

/-- What callers can do shows as it is, as long as they can do it. -/
theorem through_open {f : State → State} {t : State}
    (hf : (f (s.through v)).through v = (f s).through v)
    (h : (if s.closed then none else some (f s)) = some t) :
    ∃ u, (if (s.through v).closed then none else some (f (s.through v))) = some u ∧
      u.through v = t.through v := by
  split at h
  · cases h
  · rename_i hc
    cases h
    exact ⟨_, if_neg hc, hf⟩

end State

end Parley
