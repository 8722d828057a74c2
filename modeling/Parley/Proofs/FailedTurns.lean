import Parley.Proofs.Writes

namespace Parley

def Request.failing (request : Request) (failure : CallFailure) : Completion :=
  ⟨{ request with elapsed := none }, .failed (classify failure request.model.provider)⟩

theorem classify_eq_cancelled {failure : CallFailure} {provider : Provider}
    (h : classify failure provider = .cancelled) : failure = .cancelled := by
  cases failure with
  | cancelled => rfl
  | timeout n => cases h
  | model e =>
    simp only [classify] at h
    split at h <;> cases h

theorem classify_eq_timeout {failure : CallFailure} {provider : Provider} {n : Nat}
    (h : classify failure provider = .timeout n) : failure = .timeout n := by
  cases failure with
  | cancelled => cases h
  | timeout m =>
    cases h
    rfl
  | model e =>
    simp only [classify] at h
    split at h <;> cases h

/-- A user message that was just recorded is taken back, and only what opens the conversation
stays. -/
theorem Setup.history_undone (setup : Setup) (s : State) (request : Request) (now : Instant)
    (key : ConversationKey) :
    ((setup.pending (setup.job s request now)).undo (setup.opened s.store request)).history key =
      s.store.history key ++
        if key = request.key ∧ primes s.store request = true then [setup.primer] else [] := by
  have hopened : (setup.opened s.store request).history request.key =
      (s.store.history request.key ++ if primes s.store request then [setup.primer] else []) ++
        [(setup.pending (setup.job s request now)).userMessage] := by
    rw [history_opened, if_pos rfl, opening, List.append_assoc]
    rfl
  rw [Pending.history_undo hopened, history_opened]
  by_cases hk : key = request.key
  · simp [hk, pending, job]
  · simp [hk, pending, job]

namespace State

variable {setup : Setup} {store : Store} {s t u v : State} {request : Request} {now : Instant}
  {failure : CallFailure} {job : Job} {p : Pending}

/-- What is left in `t` of the turn that began in `s` and failed, and what its caller may hear. -/
structure Undone (setup : Setup) (s : State) (request : Request) (failure : CallFailure)
    (t : State) : Prop where
  vacant : t.current = none
  flag : t.running = false
  numbered : t.lastId = s.lastId + 1
  counted : t.tickets = s.tickets + 1
  cancelled : t.cancelled = s.cancelled
  history : ∀ key, t.store.history key = s.store.history key ++
    if key = request.key ∧ Setup.primes s.store request = true then [setup.primer] else []
  reportable : classify failure request.model.provider ≠ .cancelled
  punctual : ∀ n, classify failure request.model.provider = .timeout n →
    n = request.effectiveTimeout
  told : ∀ moves u, t.play setup moves = some u →
    ∀ completion, (s.tickets, completion) ∈ u.completions → completion = request.failing failure

/-- As long as a submission is current, no other one is accepted or turned away, nothing is
cancelled, and nobody writes to the store. -/
structure Holds (p : Pending) (s t : State) : Prop where
  issued : p.id ≤ t.lastId
  kept : t.current = some p → s.current = some p ∧ t.lastId = s.lastId ∧ t.tickets = s.tickets ∧
    t.cancelled = s.cancelled ∧ t.store = s.store

theorem Holds.step (hs : Holds p s t) (h : Effect setup t u) : Holds p s u := by
  cases h with
  | rested closed idle => exact ⟨hs.issued, fun hc => hs.kept hc⟩
  | stopped | debounced | generated | failed | hushed => exact ⟨hs.issued, fun hc => (nomatch hc)⟩
  | queued request now idle alive =>
    refine ⟨Nat.le_succ_of_le hs.issued, ?_⟩
    intro hc
    cases hc
    exact absurd hs.issued (Nat.not_succ_le_self _)
  | refused request now idle dead =>
    refine ⟨Nat.le_succ_of_le hs.issued, ?_⟩
    intro hc
    cases idle.symm.trans hc
  | discarded | worked => exact ⟨hs.issued, hs.kept⟩

theorem Holds.run {actions : List Action} (hr : Reachable setup store s) (issued : p.id ≤ s.lastId)
    (h : s.run setup actions = some t) : Holds p s t :=
  hr.run_induction (P := Holds p s) ⟨issued, fun hc => ⟨hc, rfl, rfl, rfl, rfl⟩⟩
    (fun _ _ _ hu he => hu.step he) h

/-- A call that lost to its deadline tells the time limit of its own request. -/
def Punctual (s : State) : Prop :=
  ∀ job n losing, s.worker = .ended job (.error (.timeout n)) losing →
    n = job.request.effectiveTimeout

theorem Punctual.step (hs : Punctual s) (h : Effect setup s t) : Punctual t := by
  intro job n losing ended
  cases h with
  | discarded | generated | failed | hushed => cases ended
  | worked step =>
    cases step with
    | expire =>
      cases ended
      rfl
    | finish result => cases result <;> cases ended
    | deliver => split at ended <;> cases ended
    | _ => cases ended
  | _ => exact hs job n losing ended

theorem reachable_punctual (hr : Reachable setup store s) : Punctual s :=
  hr.induction (fun _ _ _ h => (nomatch h)) (fun _ _ _ hs h => hs.step h) (fun _ _ hs => hs)

/-- A submission keeps its ticket. -/
theorem request_of_ticket {before after : List Move}
    (hs : (initial store).play setup before = some s) :
    (requests (before ++ .own (.submit request now) :: after))[s.tickets]? = some request := by
  rw [requests, List.filterMap_append, (play_returned hs).issued]
  exact List.getElem?_append_right (Nat.le_refl _) |>.trans (by simp [Move.request?])

/-- The caller of a submission that was settled as failed hears exactly that. -/
theorem told_failing {before after : List Move} {result : Except CallFailure String}
    {completion : Completion} (hs : (initial store).play setup before = some s)
    (ht : (initial store).play setup (before ++ .own (.submit request now) :: after) = some t)
    (hj : setup.job s request now ∈ t.accepted)
    (hset : (s.lastId + 1, result, (request.failing failure).outcome) ∈ t.settlements)
    (hm : (s.tickets, completion) ∈ t.completions) : completion = request.failing failure := by
  have hout : completion.outcome = (request.failing failure).outcome :=
    told_settled ⟨_, ht⟩ hj hset hm
  obtain ⟨own, hown, hof, _⟩ := (play_returned ht).told s.tickets completion hm
  obtain rfl := Option.some.inj (hown.symm.trans (request_of_ticket hs))
  have hrequest := hof (List.mem_map_of_mem (f := Job.ticket) hj)
  rw [Completion.Of, hout] at hrequest
  cases completion
  simp_all [Request.failing, Outcome.reply?]

theorem Undone.of_play {before after : List Move} (result : Except CallFailure String)
    (hs : (initial store).play setup before = some s)
    (ht : (initial store).play setup (before ++ .own (.submit request now) :: after) = some t)
    (hc : t.current = none) (hf : t.running = false) (hl : t.lastId = s.lastId + 1)
    (htick : t.tickets = s.tickets + 1) (hcan : t.cancelled = s.cancelled)
    (hst : t.store = (setup.pending (setup.job s request now)).undo (setup.opened s.store request))
    (hj : setup.job s request now ∈ t.accepted)
    (hset : (s.lastId + 1, result, (request.failing failure).outcome) ∈ t.settlements)
    (lost : failure ≠ .cancelled)
    (hpunctual : ∀ n, failure = .timeout n → n = request.effectiveTimeout) :
    Undone setup s request failure t where
  vacant := hc
  flag := hf
  numbered := hl
  counted := htick
  cancelled := hcan
  history key := by rw [hst, Setup.history_undone]
  reportable he := lost (classify_eq_cancelled he)
  punctual n he := hpunctual n (classify_eq_timeout he)
  told moves u hu completion hm := by
    have hext := (play_extends hu).sublist
    have hall : (initial store).play setup
        (before ++ .own (.submit request now) :: (after ++ moves)) = some u := by
      rw [← List.cons_append, ← List.append_assoc, play_append, ht]
      exact hu
    exact told_failing hs hall ((hext.filterMap _).subset hj) ((hext.filterMap _).subset hset) hm

/-- While a submission is current the books stay as they were when it was accepted. -/
theorem books_while_current {actions : List Action} (hr : Reachable setup store s)
    (idle : s.current = none)
    (h : s.run setup (.submit request now :: actions) = some t)
    (busy : t.current = some (setup.pending (setup.job s request now))) :
    t.lastId = s.lastId + 1 ∧ t.tickets = s.tickets + 1 ∧ t.cancelled = s.cancelled ∧
      t.store = setup.opened s.store request ∧ setup.job s request now ∈ t.accepted := by
  obtain ⟨first, hfirst, hrest⟩ := Option.bind_eq_some_iff.mp h
  have hfr : Reachable setup store first := hr.move hfirst
  have hp : s.perform setup (.submit request now) = some first := hfirst
  obtain ⟨_, rfl⟩ := submit_of_perform hp
  cases hw : s.worker.isGone with
  | true =>
    -- A submission that finds no worker is never current.
    rw [submit_refused idle hw] at hfr hrest
    cases ((Holds.run hfr (Nat.le_refl _) hrest).kept busy).1
  | false =>
    rw [submit_queued idle hw] at hfr hrest
    obtain ⟨_, hl, ht, hcan, hst⟩ := (Holds.run hfr (Nat.le_refl _) hrest).kept busy
    refine ⟨hl, ht, hcan, hst, ((play_extends hrest).sublist.filterMap _).subset ?_⟩
    simp [admitted]

/-- A failure on its way from the worker to the caller. -/
theorem run_answering {losing : Bool} (ended : s.worker = .ended job (.error failure) losing)
    (busy : s.current = some p) (own : p.id = job.id) (lost : failure ≠ .cancelled)
    (later : Instant) (tokens : TokenUsage) :
    s.run setup [.conclude later, .audit (some tokens), .deliver] = some { s with
      current := none
      running := false
      worker := if losing then .draining job else .idle
      store := p.undo s.store
      trace := s.trace ++ [p.undoing s.store,
        .reported p.key (classify failure job.request.model.provider) failure,
        .settled job.id (.error failure) (.failed (classify failure job.request.model.provider)),
        .audited job.id ⟨job.request.key, job.request.model,
          .ofOutcome (.failed (classify failure job.request.model.provider)), tokens⟩,
        .resolved job.ticket
          ⟨job.request, .failed (classify failure job.request.model.provider)⟩] } := by
  have hconclude : s.perform setup (.conclude later) = some _ :=
    conclude_failure ended busy own lost later
  rw [run_step hconclude, run_step rfl, run_step rfl]
  simp only [run, play, List.map_nil, emit, List.append_assoc, List.cons_append, List.nil_append]

/-- The worker sees the failure while the submission is current. -/
theorem undone_by_worker {before : List Move} {actions : List Action} {losing : Bool}
    (hs : (initial store).play setup before = some s) (idle : s.current = none)
    (h : s.run setup (.submit request now :: actions) = some t)
    (busy : t.current = some (setup.pending (setup.job s request now)))
    (ended : t.worker = .ended (setup.job s request now) (.error failure) losing)
    (later : Instant) :
    ∃ u, t.conclude later = some u ∧
      u.worker = .settled (setup.job s request now) (request.failing failure).outcome losing ∧
      Undone setup s request failure u ∧
      ∀ tokens, ∃ v, u.run setup [.audit (some tokens), .deliver] = some v ∧
        (s.tickets, request.failing failure) ∈ v.completions := by
  have hall : (initial store).play setup
      (before ++ .own (.submit request now) :: actions.map .own) = some t := by
    rw [play_append, hs]
    exact h
  have hlost : failure ≠ .cancelled := by
    rintro rfl
    exact (reachable_slot ⟨_, hall⟩).not_hushed busy ended rfl
  obtain ⟨hl, ht, hcan, hst, hj⟩ := books_while_current ⟨before, hs⟩ idle h busy
  have hu := conclude_failure ended busy rfl hlost later
  have hperform : t.perform setup (.conclude later) = some _ := hu
  refine ⟨_, hu, rfl, ?_, ?_⟩
  · have hplay := play_snoc.mpr ⟨t, hall, show t.move setup (.own (.conclude later)) = _ from hu⟩
    rw [List.append_assoc, List.cons_append] at hplay
    refine Undone.of_play (.error failure) hs hplay rfl rfl hl ht hcan ?_ ?_ ?_ hlost ?_
    · rw [hst]
    · simpa [accepted] using hj
    · simp [settlements, List.filterMap_cons, Request.failing, Setup.job]
    · rintro n rfl
      exact reachable_punctual ⟨_, hall⟩ _ _ _ ended
  · intro tokens
    refine ⟨_, (run_step hperform).symm.trans (run_answering ended busy rfl hlost later tokens), ?_⟩
    simp [completions, List.filterMap_cons, Request.failing, Setup.job]

/-- The submission meets no worker. -/
theorem undone_without_worker {before : List Move} (hs : (initial store).play setup before = some s)
    (idle : s.current = none) (opened : s.closed = false) (dead : s.worker.isGone = true) :
    s.perform setup (.submit request now) = some (s.submit setup request now) ∧
      (s.tickets, request.failing noWorker) ∈ (s.submit setup request now).completions ∧
      Undone setup s request noWorker (s.submit setup request now) := by
  have hperform : s.perform setup (.submit request now) = some (s.submit setup request now) :=
    if_neg (by simp [opened])
  have hplay : (initial store).play setup (before ++ .own (.submit request now) :: []) =
      some (s.submit setup request now) := play_snoc.mpr ⟨s, hs, hperform⟩
  refine ⟨hperform, ?_, ?_⟩
  · rw [submit_refused idle dead]
    simp [completions, Request.failing, List.filterMap_cons]
  · rw [submit_refused idle dead] at hplay ⊢
    refine Undone.of_play (.error noWorker) hs hplay rfl rfl rfl rfl rfl rfl ?_ ?_
      (by simp [noWorker]) (by simp [noWorker])
    · simp [accepted, admitted, List.filterMap_cons]
    · simp [settlements, admitted, Request.failing, List.filterMap_cons]

/-- A call that fails while nothing else goes on. -/
theorem run_failing {error : ModelError} (idle : s.current = none) (opened : s.closed = false)
    (free : s.worker = .idle) (empty : s.queue = []) (new : s.lastId + 1 ∉ s.cancelled)
    (began : Instant) :
    s.run setup [.submit request now, .take began, .finish (.error error)] =
      some { s.admitted setup request now with
        worker := .ended (setup.job s request now) (.error (.model error)) false
        trace := (s.admitted setup request now).trace ++
          [.called (s.lastId + 1), .returned (s.lastId + 1) (some (.error error))] } := by
  have alive : s.worker.isGone = false := by rw [free]; rfl
  have hsubmit : s.perform setup (.submit request now) = some { s.admitted setup request now with
      queue := [setup.job s request now] } := by
    rw [perform, if_neg (by simp [opened]), submit_queued idle alive, empty]
    rfl
  have htake : perform setup
      { s.admitted setup request now with queue := [setup.job s request now] } (.take began) =
      some { s.admitted setup request now with
        worker := .calling (setup.job s request now) began
        trace := (s.admitted setup request now).trace ++ [.called (s.lastId + 1)] } := by
    simp [perform, take, admitted, free, empty, isCancelled, Setup.job, new, emit]
  rw [run_step hsubmit, run_step htake, run_step rfl]
  simp only [run, play, List.map_nil, emit, List.append_assoc]
  rfl

/-- The same submission with a worker in the place of none, whose call fails and is told alike: all
that is different is the record of the call, and an audit. -/
theorem alike_with_worker {before : List Move} {error : ModelError}
    (hs : (initial store).play setup before = some s) (idle : s.current = none)
    (opened : s.closed = false) (dead : s.worker.isGone = true)
    (alike : classify (.model error) request.model.provider =
      classify noWorker request.model.provider)
    (began ended : Instant) (tokens : TokenUsage) :
    ∃ v, { s with worker := .idle }.run setup [.submit request now, .take began,
        .finish (.error error), .conclude ended, .audit (some tokens), .deliver] = some v ∧
      { v with worker := s.worker, trace := (s.submit setup request now).trace } =
        s.submit setup request now ∧
      v.completions = (s.submit setup request now).completions ∧
      (.model error = noWorker → v.logged = (s.submit setup request now).logged) := by
  have hqueue : s.queue = [] := reachable_deserted ⟨before, hs⟩ dead
  have hnew : s.lastId + 1 ∉ s.cancelled := fun hm =>
    Nat.not_succ_le_self _ ((reachable_slot ⟨before, hs⟩).issued _ hm)
  have hcall := @run_failing setup { s with worker := .idle } request now error idle opened rfl
    hqueue hnew began
  have hlost : CallFailure.model error ≠ .cancelled := by simp
  refine ⟨_, (run_append hcall _).trans (run_answering rfl rfl rfl hlost ended tokens), ?_, ?_, ?_⟩
  · rw [submit_refused idle dead]
    rfl
  · rw [submit_refused idle dead]
    simp [completions, admitted, Setup.job, alike, List.filterMap_cons]
  · intro same
    rw [submit_refused idle dead, same]
    simp [logged, admitted, Event.log?, List.filterMap_cons]
    rfl

/-- If the call fails for the reason that there is no worker, the log is the same too. -/
theorem same_with_worker {before : List Move} (hs : (initial store).play setup before = some s)
    (idle : s.current = none) (opened : s.closed = false) (dead : s.worker.isGone = true)
    (began ended : Instant) (tokens : TokenUsage) :
    ∃ v, { s with worker := .idle }.run setup [.submit request now, .take began,
        .finish (.error (.aborted "prompt worker is not running")), .conclude ended,
        .audit (some tokens), .deliver] = some v ∧
      { v with worker := s.worker, trace := (s.submit setup request now).trace } =
        s.submit setup request now ∧
      v.completions = (s.submit setup request now).completions ∧
      v.logged = (s.submit setup request now).logged := by
  obtain ⟨v, hv, hsame, htold, hlogged⟩ :=
    alike_with_worker hs idle opened dead rfl began ended tokens
  exact ⟨v, hv, hsame, htold, hlogged rfl⟩

/-- A turn that fails is undone, and its caller hears how the failure was classified: never as a
cancellation, and with the time limit of the request if time ran out. It makes no difference whether
the worker saw the failure while the submission was current, or the submission met no worker: with a
worker whose call fails for that reason all comes out the same, but for the record of the call and
the audit. -/
theorem failed_turn_undone (hr : Reachable setup store s) (idle : s.current = none)
    (request : Request) (now : Instant) :
    (∀ actions t failure losing, s.run setup (.submit request now :: actions) = some t →
      t.current = some (setup.pending (setup.job s request now)) →
      t.worker = .ended (setup.job s request now) (.error failure) losing →
      ∀ later, ∃ u, t.conclude later = some u ∧
        u.worker = .settled (setup.job s request now) (request.failing failure).outcome losing ∧
        Undone setup s request failure u ∧
        ∀ tokens, ∃ v, u.run setup [.audit (some tokens), .deliver] = some v ∧
          (s.tickets, request.failing failure) ∈ v.completions) ∧
    (s.closed = false → s.worker.isGone = true →
      ∃ u, s.perform setup (.submit request now) = some u ∧
        (s.tickets, request.failing noWorker) ∈ u.completions ∧
        Undone setup s request noWorker u ∧
        ∀ began ended tokens, ∃ v,
          { s with worker := .idle }.run setup [.submit request now, .take began,
            .finish (.error (.aborted "prompt worker is not running")), .conclude ended,
            .audit (some tokens), .deliver] = some v ∧
          { v with worker := u.worker, trace := u.trace } = u ∧
          v.completions = u.completions ∧ v.logged = u.logged) := by
  obtain ⟨before, hs⟩ := hr
  constructor
  · intro actions t failure losing h busy ended later
    exact undone_by_worker hs idle h busy ended later
  · intro opened dead
    obtain ⟨hperform, htold, hundone⟩ := undone_without_worker hs idle opened dead
    refine ⟨_, hperform, htold, hundone, ?_⟩
    intro began ended tokens
    obtain ⟨v, hv, hsame, hviews⟩ := same_with_worker hs idle opened dead began ended tokens
    refine ⟨v, hv, ?_, hviews⟩
    rw [← hsame]

/-- A call fails, and elsewhere there is no worker: either way the opening message is all that is
left of the first turn of a conversation. -/
theorem failed_turn_undone_either_way :
    ∃ (request : Request) (u v : State),
      Undone ⟨"p", compose⟩ (initial .empty) request (.model (.request "no")) u ∧
      u.store.history ⟨"k"⟩ = [Setup.primer ⟨"p", compose⟩] ∧
      (0, request.failing noWorker) ∈ v.completions ∧
      v.store.history ⟨"k"⟩ = [Setup.primer ⟨"p", compose⟩] := by
  let request : Request := ⟨⟨"k"⟩, "one", [], ⟨.mock, "m"⟩, 0, none, none⟩
  let actions : List Action := [.take 1, .finish (.error (.request "no"))]
  have h : (initial .empty).run ⟨"p", compose⟩ (.submit request 0 :: actions) = some _ := rfl
  obtain ⟨hfailed, _⟩ := @failed_turn_undone _ .empty _ ⟨[], rfl⟩ rfl request 0
  obtain ⟨u, _, _, hu, _⟩ := hfailed actions _ (.model (.request "no")) false h rfl rfl 2
  have hdead : (initial .empty).play ⟨"p", compose⟩ [.own .tearDown] = some _ := rfl
  obtain ⟨_, hrefused⟩ := failed_turn_undone ⟨_, hdead⟩ rfl request 0
  obtain ⟨v, _, htold, hv, _⟩ := hrefused rfl rfl
  exact ⟨request, u, v, hu, (hu.history _).trans (by decide +kernel), htold,
    (hv.history _).trans (by decide +kernel)⟩

end State

end Parley
