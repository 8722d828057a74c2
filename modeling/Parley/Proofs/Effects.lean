import Parley.Orchestrator.Action

namespace Parley

/-- The store after the user message of `p` was taken back, if nothing stands behind it. -/
def Pending.undo (p : Pending) (store : Store) : Store :=
  if store.last? p.key = some p.userMessage then store.removeLast p.key else store

def Pending.undoing (p : Pending) (store : Store) : Event :=
  if store.last? p.key = some p.userMessage then .wrote p.id (.removeLast p.key)
  else .rollbackSkipped p.key

namespace Setup

/-- What a submission adds to its conversation. -/
def opening (setup : Setup) (store : Store) (request : Request) : List Message :=
  (if store.isEmpty request.key && request.model.acceptsSystem then [setup.primer] else []) ++
    [setup.compose request.input request.attachments]

def opened (setup : Setup) (store : Store) (request : Request) : Store :=
  (setup.opening store request).foldl (fun store m => store.append request.key m) store

def job (setup : Setup) (s : State) (request : Request) (now : Instant) : Job :=
  ⟨s.lastId + 1, s.tickets, { request with elapsed := none },
    (setup.opened s.store request).history request.key, now⟩

def pending (setup : Setup) (job : Job) : Pending :=
  ⟨job.id, job.request.key, setup.compose job.request.input job.request.attachments⟩

def acceptance (setup : Setup) (s : State) (request : Request) (now : Instant) : List Event :=
  (setup.opening s.store request).map
    (fun m => .wrote (s.lastId + 1) (.append request.key m)) ++
  [.accepted (setup.job s request now)]

end Setup

namespace State

variable {setup : Setup} {s t : State}

theorem rollback_eq (s : State) (p : Pending) :
    s.rollback p =
      { s with store := p.undo s.store, trace := s.trace ++ [p.undoing s.store] } := by
  unfold rollback Pending.undo Pending.undoing
  split <;> rfl

theorem abandon_eq (s : State) (p : Pending) :
    s.abandon p = { s with
      current := none
      running := false
      cancelled := p.id :: s.cancelled
      store := p.undo s.store
      trace := s.trace ++ [p.undoing s.store, .cancelled p.key] } := by
  simp only [abandon, rollback_eq, emit, List.append_assoc, List.cons_append, List.nil_append]

theorem record_eq (s : State) (id : Nat) (request : Request) :
    s.record setup id request = { s with
      store := setup.opened s.store request
      trace := s.trace ++ (setup.opening s.store request).map
        (fun m => .wrote id (.append request.key m)) } := by
  unfold record Setup.opened Setup.opening
  split
  · simp only [write, emit, Store.apply, List.append_assoc, List.cons_append, List.nil_append,
      List.foldl_cons, List.foldl_nil, List.map_cons, List.map_nil]
  · rfl

theorem settle_stale (job : Job) (result : Except CallFailure String) (now : Instant)
    (h : ∀ p, s.current = some p → p.id ≠ job.id) :
    s.settle job result now =
      (s.emit (.settled job.id result .skipped), ⟨job.request, .skipped⟩) := by
  unfold settle land
  cases hc : s.current with
  | none => rfl
  | some p => simp only [if_neg (h p hc)]

theorem settle_reply {p : Pending} (job : Job) (text : String) (now : Instant)
    (hc : s.current = some p) (hid : p.id = job.id) :
    s.settle job (.ok text) now =
      ({ s with
          current := none
          running := false
          store := s.store.append p.key ⟨.assistant, text⟩
          trace := s.trace ++ [.wrote p.id (.append p.key ⟨.assistant, text⟩),
            .settled job.id (.ok text)
              (.generated ⟨⟨.assistant, text⟩, ⟨now - job.accepted⟩⟩)] },
        ⟨{ job.request with elapsed := some ⟨now - job.accepted⟩ },
          .generated ⟨⟨.assistant, text⟩, ⟨now - job.accepted⟩⟩⟩) := by
  simp only [settle, land, hc, if_pos hid, write, emit, Store.apply, List.append_assoc,
    List.cons_append, List.nil_append]

theorem settle_failure {p : Pending} (job : Job) (failure : CallFailure) (now : Instant)
    (hc : s.current = some p) (hid : p.id = job.id) (hf : failure ≠ .cancelled) :
    s.settle job (.error failure) now =
      ({ s with
          current := none
          running := false
          store := p.undo s.store
          trace := s.trace ++ [p.undoing s.store,
            .reported p.key (classify failure job.request.model.provider) failure,
            .settled job.id (.error failure)
              (.failed (classify failure job.request.model.provider))] },
        ⟨job.request, .failed (classify failure job.request.model.provider)⟩) := by
  have hr : (classify failure job.request.model.provider).rollsBack = true ∧
      (classify failure job.request.model.provider).isReportable = true := by
    cases failure with
    | cancelled => exact absurd rfl hf
    | timeout n => exact ⟨rfl, rfl⟩
    | model e =>
      unfold classify
      dsimp only
      split <;> exact ⟨rfl, rfl⟩
  simp only [settle, land, hc, if_pos hid, hr, if_true, rollback_eq, emit, List.append_assoc,
    List.cons_append, List.nil_append]

/-- A cancelled call that is current after all would be dropped without a word. -/
theorem settle_cancelled {p : Pending} (job : Job) (now : Instant)
    (hc : s.current = some p) (hid : p.id = job.id) :
    s.settle job (.error .cancelled) now =
      ({ s with
          current := none
          running := false
          trace := s.trace ++ [.settled job.id (.error .cancelled) .skipped] },
        ⟨job.request, .skipped⟩) := by
  simp only [settle, land, hc, if_pos hid, classify, PromptError.rollsBack,
    PromptError.isReportable, Bool.false_eq_true, if_false, emit]

/-- Settling touches the current submission, the flag, the store and the record only. -/
theorem settle_frame (s : State) (job : Job) (result : Except CallFailure String) (now : Instant) :
    ∃ current running store trace, (s.settle job result now).1 =
      { s with current := current, running := running, store := store, trace := trace } := by
  simp only [settle, land, rollback_eq, write, emit]
  repeat' split
  all_goals exact ⟨_, _, _, _, rfl⟩

def losses (s : State) : List Event :=
  s.worker.undelivered?.toList.map (fun job => .stopped job.ticket) ++
    s.queue.map (fun job => .resolved job.ticket ⟨job.request, .skipped⟩)

/-- The steps of the worker that leave the books alone: the worker after the step, what still waits
for it, and what is recorded. -/
inductive WorkerStep (s : State) : Worker → List Job → List Event → Prop
  | skip {job rest} (idle : s.worker = .idle) (next : s.queue = job :: rest)
      (stopped : job.id ∈ s.cancelled) :
      WorkerStep s (.ended job (.error .cancelled) false) rest []
  | call {job rest} (now : Instant) (idle : s.worker = .idle) (next : s.queue = job :: rest)
      (wanted : job.id ∉ s.cancelled) :
      WorkerStep s (.calling job now) rest [.called job.id]
  | finish {job started} (result : Except ModelError String)
      (calling : s.worker = .calling job started) :
      WorkerStep s (.ended job (result.mapError CallFailure.model) false) s.queue
        [.returned job.id (some result)]
  | expire {job started} (calling : s.worker = .calling job started) :
      WorkerStep s (.ended job (.error (.timeout job.request.effectiveTimeout)) true) s.queue []
  | interrupt {job started} (calling : s.worker = .calling job started)
      (stopped : job.id ∈ s.cancelled) :
      WorkerStep s (.ended job (.error .cancelled) true) s.queue []
  | audit {job outcome losing} (tokens : TokenUsage)
      (settled : s.worker = .settled job outcome losing) :
      WorkerStep s (.audited job outcome losing) s.queue
        [.audited job.id ⟨job.request.key, job.request.model, .ofOutcome outcome, tokens⟩]
  | deliver {job outcome losing} (audited : s.worker = .audited job outcome losing) :
      WorkerStep s (if losing then .draining job else .idle) s.queue
        [.resolved job.ticket ⟨job.request, outcome⟩]
  | drain {job} (reply : Option (Except ModelError String)) (draining : s.worker = .draining job) :
      WorkerStep s .idle s.queue [.returned job.id reply]
  | outlive {job} (reply : Option (Except ModelError String))
      (orphan : s.worker = .gone (some job)) :
      WorkerStep s (.gone none) s.queue [.returned job.id reply]
  | runOut (idle : s.worker = .idle) (empty : s.queue = []) :
      WorkerStep s (.gone none) s.queue []
  | die (alive : s.worker.isGone = false) :
      WorkerStep s (.gone s.worker.executing?) [] s.losses

/-- The steps of an orchestrator, by what becomes of the current submission. -/
inductive Effect (setup : Setup) (s : State) : State → Prop
  | rested (closed : Bool) (idle : s.current = none) : Effect setup s { s with closed := closed }
  | stopped {p} (closed : Bool) (busy : s.current = some p) :
      Effect setup s { s with
        current := none
        running := false
        cancelled := p.id :: s.cancelled
        store := p.undo s.store
        closed := closed
        trace := s.trace ++ [p.undoing s.store, .cancelled p.key] }
  /-- A submission stops the current one. -/
  | debounced {p} (request : Request) (busy : s.current = some p) :
      Effect setup s { s with
        current := none
        running := false
        cancelled := p.id :: s.cancelled
        store := p.undo s.store
        tickets := s.tickets + 1
        trace := s.trace ++ [p.undoing s.store, .cancelled p.key,
          .resolved s.tickets ⟨request, .skipped⟩] }
  | queued (request : Request) (now : Instant) (idle : s.current = none)
      (alive : s.worker.isGone = false) :
      Effect setup s { s with
        current := some (setup.pending (setup.job s request now))
        lastId := s.lastId + 1
        running := true
        queue := s.queue ++ [setup.job s request now]
        tickets := s.tickets + 1
        store := setup.opened s.store request
        trace := s.trace ++ setup.acceptance s request now }
  | refused (request : Request) (now : Instant) (idle : s.current = none)
      (dead : s.worker.isGone = true) :
      Effect setup s { s with
        lastId := s.lastId + 1
        running := false
        tickets := s.tickets + 1
        store := (setup.pending (setup.job s request now)).undo (setup.opened s.store request)
        trace := s.trace ++ setup.acceptance s request now ++
          [(setup.pending (setup.job s request now)).undoing (setup.opened s.store request),
            .reported request.key (classify noWorker request.model.provider) noWorker,
            .settled (s.lastId + 1) (.error noWorker)
              (.failed (classify noWorker request.model.provider)),
            .resolved s.tickets ⟨{ request with elapsed := none },
              .failed (classify noWorker request.model.provider)⟩] }
  /-- The result is of a submission that is not current any more. -/
  | discarded {job result losing} (ended : s.worker = .ended job result losing)
      (stale : ∀ p, s.current = some p → p.id ≠ job.id) :
      Effect setup s { s with
        worker := .settled job .skipped losing
        trace := s.trace ++ [.settled job.id result .skipped] }
  | generated {job text losing p} (elapsed : Duration)
      (ended : s.worker = .ended job (.ok text) losing)
      (busy : s.current = some p) (own : p.id = job.id) :
      Effect setup s { s with
        current := none
        running := false
        worker := .settled { job with request := { job.request with elapsed := some elapsed } }
          (.generated ⟨⟨.assistant, text⟩, elapsed⟩) losing
        store := s.store.append p.key ⟨.assistant, text⟩
        trace := s.trace ++ [.wrote p.id (.append p.key ⟨.assistant, text⟩),
          .settled job.id (.ok text) (.generated ⟨⟨.assistant, text⟩, elapsed⟩)] }
  | failed {job failure losing p} (ended : s.worker = .ended job (.error failure) losing)
      (busy : s.current = some p) (own : p.id = job.id) (lost : failure ≠ .cancelled) :
      Effect setup s { s with
        current := none
        running := false
        worker := .settled job (.failed (classify failure job.request.model.provider)) losing
        store := p.undo s.store
        trace := s.trace ++ [p.undoing s.store,
          .reported p.key (classify failure job.request.model.provider) failure,
          .settled job.id (.error failure)
            (.failed (classify failure job.request.model.provider))] }
  | hushed {job losing p} (ended : s.worker = .ended job (.error .cancelled) losing)
      (busy : s.current = some p) (own : p.id = job.id) :
      Effect setup s { s with
        current := none
        running := false
        worker := .settled job .skipped losing
        trace := s.trace ++ [.settled job.id (.error .cancelled) .skipped] }
  | worked {worker queue events} (step : WorkerStep s worker queue events) :
      Effect setup s { s with worker := worker, queue := queue, trace := s.trace ++ events }

theorem cancelCurrent_effect (closed : Bool) :
    Effect setup s { s.cancelCurrent with closed := closed } := by
  unfold cancelCurrent
  cases hc : s.current with
  | none => exact .rested closed hc
  | some p =>
    dsimp only
    rw [abandon_eq]
    exact .stopped closed hc

/-- A state in which a submission was made current and its job was not handed over yet. -/
def admitted (setup : Setup) (s : State) (request : Request) (now : Instant) : State :=
  { s with
    current := some (setup.pending (setup.job s request now))
    lastId := s.lastId + 1
    running := true
    tickets := s.tickets + 1
    store := setup.opened s.store request
    trace := s.trace ++ setup.acceptance s request now }

theorem accept_eq (request : Request) (now : Instant) :
    { s with tickets := s.tickets + 1 }.accept setup s.tickets request now =
      if s.worker.isGone then
        let settled := (s.admitted setup request now).settle (setup.job s request now)
          (.error noWorker) now
        settled.1.emit (.resolved s.tickets settled.2)
      else { s.admitted setup request now with queue := s.queue ++ [setup.job s request now] } := by
  simp only [accept, record_eq, emit, List.append_assoc]
  rfl

theorem submit_idle {request : Request} {now : Instant} (hc : s.current = none) :
    s.submit setup request now =
      { s with tickets := s.tickets + 1 }.accept setup s.tickets request now := by
  simp only [submit]
  split
  · rename_i p hp
    rw [show s.current = some p from hp] at hc
    cases hc
  · rfl

/-- A submission is handed to the worker. -/
theorem submit_queued {request : Request} {now : Instant} (hc : s.current = none)
    (alive : s.worker.isGone = false) :
    s.submit setup request now =
      { s.admitted setup request now with queue := s.queue ++ [setup.job s request now] } := by
  rw [submit_idle hc, accept_eq, if_neg (by simp [alive])]

/-- A submission finds no worker and fails at once. -/
theorem submit_refused {request : Request} {now : Instant} (hc : s.current = none)
    (dead : s.worker.isGone = true) :
    s.submit setup request now =
      { s.admitted setup request now with
        current := none
        running := false
        store := (setup.pending (setup.job s request now)).undo (setup.opened s.store request)
        trace := (s.admitted setup request now).trace ++
          [(setup.pending (setup.job s request now)).undoing (setup.opened s.store request),
            .reported request.key (classify noWorker request.model.provider) noWorker,
            .settled (s.lastId + 1) (.error noWorker)
              (.failed (classify noWorker request.model.provider)),
            .resolved s.tickets ⟨{ request with elapsed := none },
              .failed (classify noWorker request.model.provider)⟩] } := by
  have hlost : noWorker ≠ .cancelled := by simp [noWorker]
  rw [submit_idle hc, accept_eq, if_pos dead,
    settle_failure (setup.job s request now) noWorker now rfl rfl hlost]
  simp only [emit, admitted, Setup.job, Setup.pending, List.append_assoc, List.cons_append,
    List.nil_append]

theorem submit_busy {request : Request} {now : Instant} {p : Pending} (hc : s.current = some p) :
    s.submit setup request now =
      ({ s with tickets := s.tickets + 1 }.abandon p).emit
        (.resolved s.tickets ⟨request, .skipped⟩) := by
  simp only [submit]
  split
  · rename_i q hq
    rw [show s.current = some q from hq] at hc
    cases hc
    rfl
  · rename_i hq
    rw [show s.current = none from hq] at hc
    cases hc

/-- A submission takes a ticket, gives up the current one if there is one, and closes nothing. -/
theorem submit_frame (request : Request) (now : Instant) :
    (s.submit setup request now).tickets = s.tickets + 1 ∧
      (s.submit setup request now).cancelled =
        s.current.toList.map Pending.id ++ s.cancelled ∧
      (s.submit setup request now).closed = s.closed := by
  cases hc : s.current with
  | some p =>
    rw [submit_busy hc, abandon_eq]
    exact ⟨rfl, rfl, rfl⟩
  | none =>
    rw [submit_idle hc, accept_eq]
    split
    · obtain ⟨_, _, _, _, hs⟩ := settle_frame (s.admitted setup request now)
        (setup.job s request now) (.error noWorker) now
      have htickets := congrArg State.tickets hs
      have hcancelled := congrArg State.cancelled hs
      have hclosed := congrArg State.closed hs
      exact ⟨htickets, hcancelled, hclosed⟩
    · exact ⟨rfl, rfl, rfl⟩

theorem submit_effect (request : Request) (now : Instant) :
    Effect setup s (s.submit setup request now) := by
  cases hc : s.current with
  | none =>
    cases hw : s.worker.isGone with
    | false =>
      rw [submit_queued hc hw]
      exact .queued request now hc hw
    | true =>
      have h := @Effect.refused setup s request now hc hw
      rw [submit_refused hc hw]
      simpa only [hc, admitted] using h
  | some p =>
    rw [submit_busy hc]
    simp only [abandon_eq, emit, List.append_assoc, List.cons_append, List.nil_append]
    exact .debounced request hc

theorem conclude_eq {job : Job} {result : Except CallFailure String} {losing : Bool}
    (hw : s.worker = .ended job result losing) (now : Instant) :
    s.conclude now = some { (s.settle job result now).1 with
      worker := .settled { job with request := (s.settle job result now).2.request }
        (s.settle job result now).2.outcome losing } := by
  simp only [conclude, hw]

/-- The failure of a call whose submission is current. -/
theorem conclude_failure {p : Pending} {job : Job} {failure : CallFailure} {losing : Bool}
    (ended : s.worker = .ended job (.error failure) losing) (busy : s.current = some p)
    (own : p.id = job.id) (lost : failure ≠ .cancelled) (now : Instant) :
    s.conclude now = some { s with
      current := none
      running := false
      worker := .settled job (.failed (classify failure job.request.model.provider)) losing
      store := p.undo s.store
      trace := s.trace ++ [p.undoing s.store,
        .reported p.key (classify failure job.request.model.provider) failure,
        .settled job.id (.error failure)
          (.failed (classify failure job.request.model.provider))] } := by
  rw [conclude_eq ended, settle_failure job failure now busy own lost]

theorem conclude_effect {now : Instant} (h : s.conclude now = some t) : Effect setup s t := by
  cases hw : s.worker with
  | ended job result losing =>
    rw [conclude_eq hw] at h
    cases h
    by_cases hown : ∃ p, s.current = some p ∧ p.id = job.id
    · obtain ⟨p, hc, hid⟩ := hown
      cases result with
      | ok text =>
        rw [settle_reply job text now hc hid]
        exact .generated _ hw hc hid
      | error failure =>
        by_cases hf : failure = .cancelled
        · subst hf
          rw [settle_cancelled job now hc hid]
          exact .hushed hw hc hid
        · rw [settle_failure job failure now hc hid hf]
          exact .failed hw hc hid hf
    · have hstale : ∀ p, s.current = some p → p.id ≠ job.id :=
        fun p hc hid => hown ⟨p, hc, hid⟩
      rw [settle_stale job result now hstale]
      exact .discarded hw hstale
  | idle | calling | settled | audited | draining | gone => simp [conclude, hw] at h

/-- The worker's own steps, its settling apart. -/
theorem worked_of_step {worker : Worker} {queue : List Job} {events : List Event}
    (step : WorkerStep s worker queue events)
    (h : { s with worker := worker, queue := queue, trace := s.trace ++ events } = t) :
    Effect setup s t :=
  h ▸ .worked step

theorem take_effect {now : Instant} (h : s.take now = some t) : Effect setup s t := by
  unfold take at h
  split at h
  · rename_i job rest hw hq
    dsimp only at h
    split at h
    · rename_i hc
      cases h
      exact worked_of_step (.skip hw hq (by simpa [isCancelled] using hc)) (by simp)
    · rename_i hc
      cases h
      exact worked_of_step (.call now hw hq (by simpa [isCancelled] using hc)) rfl
  · cases h

theorem finish_effect {result : Except ModelError String} (h : s.finish result = some t) :
    Effect setup s t := by
  unfold finish at h
  split at h
  · rename_i job started hw
    cases h
    exact worked_of_step (.finish result hw) rfl
  · cases h

theorem expire_effect {now : Instant} (h : s.expire now = some t) : Effect setup s t := by
  unfold expire at h
  split at h
  · rename_i job started hw
    split at h
    · cases h
      exact worked_of_step (.expire hw) (by simp)
    · cases h
  · cases h

theorem interrupt_effect (h : s.interrupt = some t) : Effect setup s t := by
  unfold interrupt at h
  split at h
  · rename_i job started hw
    split at h
    · rename_i hc
      cases h
      exact worked_of_step (.interrupt hw (by simpa [isCancelled] using hc)) (by simp)
    · cases h
  · cases h

theorem tearDown_effect (h : s.tearDown = some t) : Effect setup s t := by
  unfold tearDown at h
  split at h
  · cases h
  · rename_i hw
    cases h
    exact worked_of_step (.die (by simpa using hw)) (by simp [losses])

theorem audit_effect {tokens : Option TokenUsage} (h : s.audit tokens = some t) :
    Effect setup s t := by
  unfold audit at h
  split at h
  · rename_i job outcome losing hw
    cases tokens with
    | none => exact tearDown_effect h
    | some tokens =>
      cases h
      exact worked_of_step (.audit tokens hw) rfl
  · cases h

theorem deliver_effect (h : s.deliver = some t) : Effect setup s t := by
  unfold deliver at h
  split at h
  · rename_i job outcome losing hw
    cases h
    exact worked_of_step (.deliver hw) rfl
  · cases h

theorem drained_effect {reply : Option (Except ModelError String)}
    (h : s.drained reply = some t) : Effect setup s t := by
  unfold drained at h
  split at h
  · rename_i job hw
    cases h
    exact worked_of_step (.drain reply hw) rfl
  · rename_i job hw
    cases h
    exact worked_of_step (.outlive reply hw) rfl
  · cases h

theorem runOut_effect (h : s.runOut = some t) : Effect setup s t := by
  unfold runOut at h
  split at h
  · rename_i hw hq
    split at h
    · cases h
      exact worked_of_step (.runOut hw hq) (by simp)
    · cases h
  · cases h

theorem submit_of_perform {request : Request} {now : Instant}
    (h : s.perform setup (.submit request now) = some t) :
    s.closed = false ∧ t = s.submit setup request now := by
  simp only [perform] at h
  split at h <;> cases h
  exact ⟨Bool.eq_false_iff.mpr ‹_›, rfl⟩

theorem perform_effect {action : Action} (h : s.perform setup action = some t) :
    Effect setup s t := by
  cases action with
  | submit request now =>
    obtain ⟨_, rfl⟩ := submit_of_perform h
    exact submit_effect request now
  | cancel =>
    simp only [perform] at h
    split at h
    · cases h
    · cases h
      exact cancelCurrent_effect s.cancelCurrent.closed
  | drop =>
    simp only [perform] at h
    split at h
    · cases h
    · cases h
      exact cancelCurrent_effect true
  | take now => exact take_effect h
  | finish result => exact finish_effect h
  | expire now => exact expire_effect h
  | interrupt => exact interrupt_effect h
  | conclude now => exact conclude_effect h
  | audit tokens => exact audit_effect h
  | deliver => exact deliver_effect h
  | drained reply => exact drained_effect h
  | runOut => exact runOut_effect h
  | tearDown => exact tearDown_effect h

theorem tearDown_frame (h : s.tearDown = some t) :
    t = { s with
      worker := .gone s.worker.executing?
      queue := []
      trace := s.trace ++ s.losses } := by
  unfold tearDown at h
  split at h
  · cases h
  · cases h
    simp only [losses, List.append_assoc]

/-- The worker's own steps give out no numbers, cancel nothing and close nothing. -/
theorem perform_frame {action : Action} (h : s.perform setup action = some t)
    (hsubmit : (Move.own action).submits = false) (hstop : (Move.own action).stops = false) :
    t.tickets = s.tickets ∧ t.lastId = s.lastId ∧ t.cancelled = s.cancelled ∧
      t.closed = s.closed := by
  cases action with
  | submit => cases hsubmit
  | cancel | drop => cases hstop
  | conclude now =>
    simp only [perform, conclude] at h
    split at h
    · rename_i job result losing hw
      obtain ⟨_, _, _, _, hs⟩ := settle_frame s job result now
      cases h
      simp only [hs, and_self]
    · cases h
  | audit tokens =>
    simp only [perform, audit] at h
    split at h
    · cases tokens with
      | none =>
        rw [tearDown_frame h]
        exact ⟨rfl, rfl, rfl, rfl⟩
      | some tokens =>
        cases h
        exact ⟨rfl, rfl, rfl, rfl⟩
    · cases h
  | tearDown =>
    rw [tearDown_frame h]
    exact ⟨rfl, rfl, rfl, rfl⟩
  | _ =>
    simp only [perform, take, finish, expire, interrupt, deliver, drained, runOut] at h
    repeat' split at h
    all_goals cases h
    all_goals exact ⟨rfl, rfl, rfl, rfl⟩

/-- Somebody else touches the store only. -/
theorem move_effect {m : Move} (h : s.move setup m = some t) :
    Effect setup s t ∨
      ∃ change, m = .foreign change ∧ t = { s with store := s.store.apply change } := by
  cases m with
  | own action => exact .inl (perform_effect h)
  | foreign change =>
    cases h
    exact .inr ⟨change, rfl, rfl⟩

end State

end Parley
