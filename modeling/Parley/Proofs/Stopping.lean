import Parley.Proofs.FailedTurns

namespace Parley

namespace State

variable {setup : Setup} {s t u : State} {p : Pending} {request : Request} {now : Instant}
  {action : Action} {actions : List Action}

theorem cancelCurrent_busy (busy : s.current = some p) : s.cancelCurrent = s.abandon p := by
  simp only [cancelCurrent, busy]

theorem cancelCurrent_idle (idle : s.current = none) : s.cancelCurrent = s := by
  simp only [cancelCurrent, idle]

theorem current_cancelCurrent (s : State) : s.cancelCurrent.current = none := by
  cases hc : s.current with
  | none => rw [cancelCurrent_idle hc, hc]
  | some p => rw [cancelCurrent_busy hc, abandon_eq]

/-- All that a submission adds to the cancellation of the current one is its ticket and its
answer. -/
theorem submit_cancels (busy : s.current = some p) (request : Request) (now : Instant) :
    s.submit setup request now = { s.cancelCurrent with
      tickets := s.tickets + 1
      trace := s.cancelCurrent.trace ++ [.resolved s.tickets ⟨request, .skipped⟩] } := by
  rw [submit_busy busy, cancelCurrent_busy busy, abandon_eq, abandon_eq]
  rfl

/-- From `s` to `t` the current submission was settled, or the store and what is current stayed. -/
def Stays (s t : State) : Prop :=
  (t.current = s.current ∧ t.store = s.store) ∨ ∃ p, s.current = some p ∧ p.id ∈ t.settledIds

theorem worker_frame (h : s.perform setup action = some t) (hw : action.byWorker = true) :
    t.tickets = s.tickets ∧ t.lastId = s.lastId ∧ t.cancelled = s.cancelled ∧
      t.closed = s.closed := by
  have hcaller : (Move.own action).submits = false ∧ (Move.own action).stops = false := by
    cases action <;> first | exact ⟨rfl, rfl⟩ | cases hw
  exact perform_frame h hcaller.1 hcaller.2

theorem Stays.step (h : s.perform setup action = some t) (hw : action.byWorker = true) :
    Stays s t := by
  obtain ⟨htickets, _, hcancelled, _⟩ := worker_frame h hw
  cases perform_effect h with
  | rested | discarded | worked => exact .inl ⟨rfl, rfl⟩
  | stopped | debounced => exact absurd hcancelled (List.cons_ne_self _ _)
  | queued | refused => exact absurd htickets (Nat.succ_ne_self _)
  | @generated _ _ _ p _ _ busy own | @failed _ _ _ p _ busy own | @hushed _ _ p _ busy own =>
    exact .inr ⟨p, busy, by simp [settledIds, settlements, own, List.filterMap_cons]⟩

theorem settledIds_subset (h : s.trace <+: t.trace) : s.settledIds ⊆ t.settledIds :=
  List.map_subset _ (h.sublist.filterMap _).subset

/-- The worker by itself changes the store only where it settles the current submission. -/
theorem Stays.run (h : s.run setup actions = some t)
    (hw : ∀ action ∈ actions, action.byWorker = true) : Stays s t ∧ t.closed = s.closed := by
  induction actions generalizing s with
  | nil =>
    cases h
    exact ⟨.inl ⟨rfl, rfl⟩, rfl⟩
  | cons action rest ih =>
    obtain ⟨u, hu, hrest⟩ := Option.bind_eq_some_iff.mp h
    have hfirst := hw action List.mem_cons_self
    obtain ⟨hlater, hclosed⟩ := ih hrest (fun a ha => hw a (List.mem_cons_of_mem _ ha))
    refine ⟨?_, hclosed.trans (worker_frame hu hfirst).2.2.2⟩
    rcases Stays.step hu hfirst with ⟨hc, hst⟩ | ⟨p, busy, hset⟩
    · rcases hlater with ⟨hc', hst'⟩ | ⟨p, busy, hset⟩
      · exact .inl ⟨hc'.trans hc, hst'.trans hst⟩
      · exact .inr ⟨p, hc ▸ busy, hset⟩
    · exact .inr ⟨p, busy, settledIds_subset (play_extends hrest) hset⟩

/-- The worker by itself closes nothing, so whoever could submit can cancel afterwards. -/
theorem cancel_possible (idle : s.current = none)
    (h : s.run setup (.submit request now :: actions) = some t)
    (hw : ∀ action ∈ actions, action.byWorker = true) :
    t.perform setup .cancel = some t.cancelCurrent := by
  obtain ⟨u, hu, hrest⟩ := Option.bind_eq_some_iff.mp h
  obtain ⟨opened, rfl⟩ := submit_of_perform hu
  have hclosed : (s.submit setup request now).closed = s.closed := by
    cases hgone : s.worker.isGone with
    | true =>
      rw [submit_refused idle hgone]
      rfl
    | false =>
      rw [submit_queued idle hgone]
      rfl
  have ht : t.closed = false := (Stays.run hrest hw).2.trans (hclosed.trans opened)
  simp only [perform, ht, Bool.false_eq_true, if_false]

/-- A submission to an idle orchestrator, and a cancellation before it is settled. -/
theorem history_submit_cancel (idle : s.current = none)
    (h : s.run setup (.submit request now :: actions) = some t)
    (hw : ∀ action ∈ actions, action.byWorker = true)
    (hset : s.worker.isGone = false → s.lastId + 1 ∉ t.settledIds) (key : ConversationKey) :
    t.cancelCurrent.store.history key = s.store.history key ++
      if key = request.key ∧ Setup.primes s.store request = true then [setup.primer] else [] := by
  obtain ⟨u, hu, hrest⟩ := Option.bind_eq_some_iff.mp h
  obtain ⟨_, rfl⟩ := submit_of_perform hu
  have hstays := (Stays.run hrest hw).1
  rw [← setup.history_undone s request now key]
  cases hgone : s.worker.isGone with
  | true =>
    -- The submission met no worker, and was undone at once.
    rw [submit_refused idle hgone] at hstays
    rcases hstays with ⟨hc, hst⟩ | ⟨p, busy, _⟩
    · rw [cancelCurrent_idle hc, hst]
    · cases busy
  | false =>
    rw [submit_queued idle hgone] at hstays
    rcases hstays with ⟨hc, hst⟩ | ⟨p, busy, hsettled⟩
    · rw [cancelCurrent_busy hc, abandon_eq, hst]
      rfl
    · cases busy
      exact absurd hsettled (hset hgone)

/-- Stopping is stopping, however it is asked for. Cancelling twice is cancelling once. A submission
that meets a current one does what a cancellation does, whatever it is itself, and is answered at
once that nothing came of it: the current submission is given up, and conversations other than its
own are not touched. A submission to an idle orchestrator that is cancelled before it is settled
leaves all conversations as they were, but for the message that opens its own one. -/
theorem stopping_alike (s : State) :
    s.cancelCurrent.cancelCurrent = s.cancelCurrent ∧
    (∀ p, s.current = some p → ∀ request now,
      s.submit setup request now = { s.cancelCurrent with
        tickets := s.tickets + 1
        trace := s.cancelCurrent.trace ++ [.resolved s.tickets ⟨request, .skipped⟩] } ∧
      s.cancelCurrent.current = none ∧ s.cancelCurrent.running = false ∧
      s.cancelCurrent.cancelled = p.id :: s.cancelled ∧
      ∀ key, key ≠ p.key → s.cancelCurrent.store.history key = s.store.history key) ∧
    (s.current = none → ∀ request now actions t,
      s.run setup (.submit request now :: actions) = some t →
      (∀ action ∈ actions, action.byWorker = true) →
      (s.worker.isGone = false → s.lastId + 1 ∉ t.settledIds) →
      t.perform setup .cancel = some t.cancelCurrent ∧
      ∀ key, t.cancelCurrent.store.history key = s.store.history key ++
        if key = request.key ∧ Setup.primes s.store request = true then [setup.primer] else []) := by
  refine ⟨cancelCurrent_idle (current_cancelCurrent s), ?_, ?_⟩
  · intro p busy request now
    refine ⟨submit_cancels busy request now, current_cancelCurrent s, ?_⟩
    rw [cancelCurrent_busy busy, abandon_eq]
    exact ⟨rfl, rfl, fun key hne => Pending.history_undo_of_ne (Ne.symm hne)⟩
  · intro idle request now actions t h hw hset
    exact ⟨cancel_possible idle h hw, history_submit_cancel idle h hw hset⟩

/-- A submission is cancelled while its call goes on, after the worker has passed over another one
that was cancelled, and a submission to that other conversation would stop it just as well. -/
theorem stopping_alike_calling :
    ∃ (s t : State) (third : Request), s.current = none ∧ t.executing = [s.lastId + 1] ∧
      (∀ key ∈ [⟨"k"⟩, ⟨"l"⟩],
        t.cancelCurrent.store.history key = [Setup.primer ⟨"p", compose⟩]) ∧
      third.key = ⟨"k"⟩ ∧
      (t.submit ⟨"p", compose⟩ third 9).store = t.cancelCurrent.store := by
  let request (key input : String) : Request := ⟨⟨key⟩, input, [], ⟨.mock, "m"⟩, 0, none, none⟩
  let s := ((initial .empty).submit ⟨"p", compose⟩ (request "k" "one") 0).cancelCurrent
  let between : List Action := [.take 2, .conclude 3, .audit (some ⟨0, 0, 0⟩), .deliver, .take 4]
  obtain ⟨t, ht, hexecuting, hsettled, p, busy⟩ : ∃ t,
      s.run ⟨"p", compose⟩ (.submit (request "l" "two") 1 :: between) = some t ∧
      t.executing = [s.lastId + 1] ∧ s.lastId + 1 ∉ t.settledIds ∧ ∃ p, t.current = some p :=
    ⟨_, rfl, by decide, by decide, _, rfl⟩
  obtain ⟨_, _, hidle⟩ := @stopping_alike ⟨"p", compose⟩ s
  obtain ⟨_, hrestored⟩ :=
    hidle rfl (request "l" "two") 1 between t ht (by decide) (fun _ => hsettled)
  obtain ⟨_, hbusy, _⟩ := @stopping_alike ⟨"p", compose⟩ t
  obtain ⟨hstop, _⟩ := hbusy p busy (request "k" "three") 9
  refine ⟨s, t, request "k" "three", rfl, hexecuting, ?_, rfl, by rw [hstop]⟩
  intro key hk
  rw [hrestored]
  revert key hk
  decide +kernel

end State

end Parley
