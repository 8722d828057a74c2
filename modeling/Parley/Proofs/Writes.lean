import Parley.Proofs.Completions
import Parley.Proofs.Histories
import Parley.Proofs.Outcomes

namespace Parley

def Write.onBehalf (id : Nat) (changes : List Write) : List (Nat × Write) :=
  changes.map (fun change => (id, change))

def Store.applyAll (store : Store) (changes : List (Nat × Write)) : Store :=
  changes.foldl (fun store change => store.apply change.2) store

/-- The change that takes the user message of `p` back, if nothing stands behind it. -/
def Pending.reversal (p : Pending) (store : Store) : List Write :=
  if store.last? p.key = some p.userMessage then [.removeLast p.key] else []

namespace Setup

def primes (store : Store) (request : Request) : Bool :=
  store.isEmpty request.key && request.model.acceptsSystem

def entries (setup : Setup) (request : Request) (primed : Bool) : List Write :=
  (if primed then [.append request.key setup.primer] else []) ++
    [.append request.key (setup.compose request.input request.attachments)]

end Setup

theorem Store.applyAll_onBehalf (store : Store) (id : Nat) (changes : List Write) :
    store.applyAll (Write.onBehalf id changes) = changes.foldl Store.apply store := by
  rw [applyAll, Write.onBehalf, List.foldl_map]

theorem Write.onBehalf_append (id : Nat) (first second : List Write) :
    onBehalf id (first ++ second) = onBehalf id first ++ onBehalf id second :=
  List.map_append

theorem Store.applyAll_append (store : Store) (first second : List (Nat × Write)) :
    store.applyAll (first ++ second) = (store.applyAll first).applyAll second :=
  List.foldl_append

theorem Pending.undo_eq (p : Pending) (store : Store) :
    p.undo store = store.applyAll (Write.onBehalf p.id (p.reversal store)) := by
  rw [Store.applyAll_onBehalf]
  unfold undo reversal
  split <;> rfl

theorem Pending.eq_of_mem_reversal {p : Pending} {store : Store} {change : Nat × Write}
    (h : change ∈ Write.onBehalf p.id (p.reversal store)) :
    change = (p.id, .removeLast p.key) := by
  obtain ⟨w, hw, rfl⟩ := List.mem_map.mp h
  unfold reversal at hw
  split at hw
  · rw [List.mem_singleton.mp hw]
  · cases hw

@[simp 1100] theorem Pending.wrote_undoing (p : Pending) (store : Store) (events : List Event) :
    (p.undoing store :: events).filterMap Event.wrote? =
      Write.onBehalf p.id (p.reversal store) ++ events.filterMap Event.wrote? := by
  unfold undoing reversal
  split <;> rfl

theorem Setup.map_opening (setup : Setup) (store : Store) (request : Request) :
    (setup.opening store request).map (.append request.key) =
      setup.entries request (primes store request) := by
  unfold opening entries primes
  split <;> rfl

theorem Setup.opened_eq (setup : Setup) (store : Store) (request : Request) (id : Nat) :
    setup.opened store request =
      store.applyAll (Write.onBehalf id (setup.entries request (primes store request))) := by
  rw [Store.applyAll_onBehalf, ← map_opening, List.foldl_map]
  rfl

/-- Nothing stands behind the message of a submission that was just accepted. -/
theorem Setup.reversal_opened (setup : Setup) (s : State) (request : Request) (now : Instant) :
    (setup.pending (setup.job s request now)).reversal (setup.opened s.store request) =
      [.removeLast request.key] :=
  if_pos (last?_opened request)

@[simp] theorem Setup.wrote_acceptance (setup : Setup) (s : State) (request : Request)
    (now : Instant) : (setup.acceptance s request now).filterMap Event.wrote? =
      Write.onBehalf (s.lastId + 1) (setup.entries request (primes s.store request)) := by
  rw [acceptance, List.filterMap_append, ← map_opening, Write.onBehalf, List.map_map]
  simp [List.filterMap_map, Function.comp_def]

namespace State

variable {setup : Setup} {store : Store} {s t : State} {job : Job} {p : Pending}

/-- What a step writes to the store, and on behalf of whom. Only a submission that is accepted opens
anything; whoever is given up or fails takes its message back if it stands last, and a reply goes
to the current submission. -/
inductive Touches (setup : Setup) (s : State) : Action → State → List (Nat × Write) → Prop
  | opened {request now t} (idle : s.current = none)
      (accepted : t.accepted = s.accepted ++ [setup.job s request now]) :
      Touches setup s (.submit request now) t
        (Write.onBehalf (s.lastId + 1) (setup.entries request (Setup.primes s.store request)))
  | refused {request now t} (idle : s.current = none)
      (accepted : t.accepted = s.accepted ++ [setup.job s request now]) :
      Touches setup s (.submit request now) t
        (Write.onBehalf (s.lastId + 1)
          (setup.entries request (Setup.primes s.store request) ++ [.removeLast request.key]))
  /-- A submission that stops another one writes nothing of its own. -/
  | debounced {request now p t} (busy : s.current = some p) (accepted : t.accepted = s.accepted) :
      Touches setup s (.submit request now) t (Write.onBehalf p.id (p.reversal s.store))
  | givenUp {action p t} (other : (Move.own action).request? = none) (busy : s.current = some p)
      (past : t.current = none) (accepted : t.accepted = s.accepted) :
      Touches setup s action t (Write.onBehalf p.id (p.reversal s.store))
  | replied {action p text t} (other : (Move.own action).request? = none)
      (busy : s.current = some p) (past : t.current = none) (accepted : t.accepted = s.accepted) :
      Touches setup s action t (Write.onBehalf p.id [.append p.key ⟨.assistant, text⟩])
  | nothing {action t} (other : (Move.own action).request? = none)
      (accepted : t.accepted = s.accepted) : Touches setup s action t []

@[simp] theorem WorkerStep.wrote {worker queue events} (h : WorkerStep s worker queue events) :
    events.filterMap Event.wrote? = [] := by
  cases h with
  | die alive => simp [losses]
  | _ => rfl

theorem submit_touches (request : Request) (now : Instant) :
    ∃ changes, (s.submit setup request now).writes = s.writes ++ changes ∧
      (s.submit setup request now).store = s.store.applyAll changes ∧
      Touches setup s (.submit request now) (s.submit setup request now) changes := by
  cases hc : s.current with
  | some p =>
    rw [submit_busy hc, abandon_eq]
    exact ⟨_, by simp [writes, emit], p.undo_eq s.store, .debounced hc (by simp [accepted, emit])⟩
  | none =>
    cases hw : s.worker.isGone with
    | false =>
      rw [submit_queued hc hw]
      exact ⟨_, by simp [writes, admitted], setup.opened_eq s.store request _,
        .opened hc (by simp [accepted, admitted])⟩
    | true =>
      rw [submit_refused hc hw]
      refine ⟨_, ?_, ?_, .refused hc (by simp [accepted, admitted])⟩
      · rw [Write.onBehalf_append, ← setup.reversal_opened s request now]
        simp [writes, admitted, List.filterMap_cons]
        rfl
      · rw [Write.onBehalf_append, Store.applyAll_append, ← setup.opened_eq,
          ← setup.reversal_opened s request now]
        exact Pending.undo_eq _ _

/-- What a step writes is all that it changes in the store. -/
theorem perform_touches {action : Action} (h : s.perform setup action = some t) :
    ∃ changes, t.writes = s.writes ++ changes ∧ t.store = s.store.applyAll changes ∧
      Touches setup s action t changes := by
  cases hr : (Move.own action).request? with
  | some request =>
    cases action with
    | submit request now =>
      obtain ⟨_, rfl⟩ := submit_of_perform h
      exact submit_touches request now
    | _ => cases hr
  | none =>
    have htickets := tickets_of_no_request h hr
    cases perform_effect h with
    | debounced | queued | refused => exact absurd htickets (Nat.succ_ne_self _)
    | stopped closed busy =>
      exact ⟨_, by simp [writes], Pending.undo_eq _ _, .givenUp hr busy rfl (by simp [accepted])⟩
    | failed ended busy own lost =>
      exact ⟨_, by simp [writes, List.filterMap_cons], Pending.undo_eq _ _,
        .givenUp hr busy rfl (by simp [accepted])⟩
    | generated elapsed ended busy own =>
      exact ⟨_, by simp [writes, List.filterMap_cons, Write.onBehalf], rfl,
        .replied hr busy rfl (by simp [accepted])⟩
    | worked step =>
      exact ⟨[], by simp [writes, step.wrote], rfl,
        .nothing hr (by simp [accepted, step.filterMap_eq_nil])⟩
    | rested | discarded | hushed =>
      exact ⟨[], by simp [writes], rfl, .nothing hr (by simp [accepted])⟩

/-- Whoever is current after a step was so before, or was submitted in the step. -/
theorem perform_current {action : Action} (h : s.perform setup action = some t)
    (hc : t.current = some p) :
    s.current = some p ∨
      ∃ request now, action = .submit request now ∧ p.key = request.key := by
  cases hr : (Move.own action).request? with
  | some request =>
    cases action with
    | submit request now =>
      obtain ⟨_, rfl⟩ := submit_of_perform h
      cases hs : s.current with
      | some prior =>
        rw [submit_busy hs, abandon_eq] at hc
        cases hc
      | none =>
        cases hw : s.worker.isGone with
        | true =>
          rw [submit_refused hs hw] at hc
          cases hc
        | false =>
          rw [submit_queued hs hw] at hc
          cases hc
          exact .inr ⟨request, now, rfl, rfl⟩
    | _ => cases hr
  | none =>
    have htickets := tickets_of_no_request h hr
    cases perform_effect h with
    | debounced | queued | refused => exact absurd htickets (Nat.succ_ne_self _)
    | rested | discarded | worked => exact .inl hc
    | stopped | generated | failed | hushed => cases hc

end State

end Parley
