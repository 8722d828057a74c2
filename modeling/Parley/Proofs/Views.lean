import Parley.Orchestrator.Trace
import Parley.Proofs.Effects

namespace Parley

/-- A view of the trace that says nothing about the store. -/
def Storeless {α : Type} (f : Event → Option α) : Prop :=
  (∀ id w, f (.wrote id w) = none) ∧ ∀ key, f (.rollbackSkipped key) = none

@[simp] theorem storeless_accepted : Storeless Event.accepted? := ⟨fun _ _ => rfl, fun _ => rfl⟩

@[simp] theorem storeless_called : Storeless Event.called? := ⟨fun _ _ => rfl, fun _ => rfl⟩

@[simp] theorem storeless_returned : Storeless Event.returned? := ⟨fun _ _ => rfl, fun _ => rfl⟩

@[simp] theorem storeless_replied : Storeless Event.replied? := ⟨fun _ _ => rfl, fun _ => rfl⟩

@[simp] theorem storeless_generated : Storeless Event.generated? := ⟨fun _ _ => rfl, fun _ => rfl⟩

@[simp] theorem storeless_settled : Storeless Event.settled? := ⟨fun _ _ => rfl, fun _ => rfl⟩

@[simp] theorem storeless_resolved : Storeless Event.resolved? := ⟨fun _ _ => rfl, fun _ => rfl⟩

@[simp] theorem storeless_answered : Storeless Event.answered? := ⟨fun _ _ => rfl, fun _ => rfl⟩

@[simp] theorem storeless_cancelled : Storeless Event.cancelled? := ⟨fun _ _ => rfl, fun _ => rfl⟩

@[simp] theorem storeless_audited : Storeless Event.audited? := ⟨fun _ _ => rfl, fun _ => rfl⟩

@[simp] theorem storeless_stopped : Storeless Event.stopped? := ⟨fun _ _ => rfl, fun _ => rfl⟩

/-- A view of the trace that says nothing about calls and answers. -/
structure Workless {α : Type} (f : Event → Option α) : Prop where
  called : ∀ id, f (.called id) = none
  returned : ∀ id reply, f (.returned id reply) = none
  audited : ∀ id audit, f (.audited id audit) = none
  resolved : ∀ ticket completion, f (.resolved ticket completion) = none
  stopped : ∀ ticket, f (.stopped ticket) = none

@[simp] theorem workless_accepted : Workless Event.accepted? :=
  ⟨fun _ => rfl, fun _ _ => rfl, fun _ _ => rfl, fun _ _ => rfl, fun _ => rfl⟩

@[simp] theorem workless_generated : Workless Event.generated? :=
  ⟨fun _ => rfl, fun _ _ => rfl, fun _ _ => rfl, fun _ _ => rfl, fun _ => rfl⟩

@[simp] theorem workless_settled : Workless Event.settled? :=
  ⟨fun _ => rfl, fun _ _ => rfl, fun _ _ => rfl, fun _ _ => rfl, fun _ => rfl⟩

@[simp] theorem workless_cancelled : Workless Event.cancelled? :=
  ⟨fun _ => rfl, fun _ _ => rfl, fun _ _ => rfl, fun _ _ => rfl, fun _ => rfl⟩

@[simp] theorem workless_rollbackSkipped : Workless Event.rollbackSkipped? :=
  ⟨fun _ => rfl, fun _ _ => rfl, fun _ _ => rfl, fun _ _ => rfl, fun _ => rfl⟩

variable {α : Type} {f : Event → Option α}

@[simp 1100] theorem Pending.filterMap_undoing (p : Pending) (store : Store) (events : List Event)
    (hf : Storeless f) : (p.undoing store :: events).filterMap f = events.filterMap f := by
  have hu : f (p.undoing store) = none := by
    unfold undoing
    split
    · exact hf.1 _ _
    · exact hf.2 _
  rw [List.filterMap_cons, hu]

@[simp] theorem Setup.filterMap_acceptance (setup : Setup) (s : State) (request : Request)
    (now : Instant) (hf : Storeless f) :
    (setup.acceptance s request now).filterMap f =
      (f (.accepted (setup.job s request now))).toList := by
  have hn : ((setup.opening s.store request).map
      (fun m => Event.wrote (s.lastId + 1) (.append request.key m))).filterMap f = [] := by
    simp [hf.1]
  rw [acceptance, List.filterMap_append, hn, List.nil_append, List.filterMap_cons]
  cases f (.accepted (setup.job s request now)) <;> rfl

/-- What one view sees, another sees too. -/
theorem filterMap_sublist {β : Type} {g : Event → Option β} {k : α → β}
    (h : ∀ e a, f e = some a → g e = some (k a)) (events : List Event) :
    ((events.filterMap f).map k).Sublist (events.filterMap g) := by
  induction events with
  | nil => exact .slnil
  | cons e rest ih =>
    cases hf : f e with
    | none =>
      rw [List.filterMap_cons_none hf]
      exact ih.trans ((List.sublist_cons_self e rest).filterMap g)
    | some a =>
      rw [List.filterMap_cons_some hf, List.filterMap_cons_some (h e a hf)]
      exact ih.cons_cons (k a)

namespace State

variable {s : State}

theorem filterMap_losses (hs : ∀ ticket, f (.stopped ticket) = none)
    (hr : ∀ ticket completion, f (.resolved ticket completion) = none) :
    s.losses.filterMap f = [] := by
  simp [losses, hs, hr]

/-- Whoever waits in the queue at the end of the worker is skipped. -/
theorem losses_resolved : s.losses.filterMap Event.resolved? =
    s.queue.map (fun job => (job.ticket, ⟨job.request, .skipped⟩)) := by
  have hnone : s.worker.undelivered?.toList.filterMap
      (fun _ => (none : Option (Nat × Completion))) = [] := by simp
  simp [losses, List.filterMap_map, Function.comp_def, hnone]

theorem losses_stopped : s.losses.filterMap Event.stopped? =
    s.worker.undelivered?.toList.map Job.ticket := by
  have hnone : s.queue.filterMap (fun _ => (none : Option Nat)) = [] := by simp
  simp [losses, List.filterMap_map, Function.comp_def, hnone]

theorem WorkerStep.filterMap_eq_nil {worker queue events} (h : WorkerStep s worker queue events)
    (hf : Workless f) : events.filterMap f = [] := by
  cases h with
  | die alive => exact filterMap_losses hf.stopped hf.resolved
  | skip | expire | interrupt | runOut => rfl
  | call => simp [hf.called]
  | finish | drain | outlive => simp [hf.returned]
  | audit => simp [hf.audited]
  | deliver => simp [hf.resolved]

end State

end Parley
