import Parley.Proofs.Classified
import Parley.Proofs.FailedTurns
import Parley.Proofs.Perspectives

namespace Parley

def CallFailure.mute : CallFailure → CallFailure
  | model _ => model .emptyResponse
  | failure => failure

/-- An event without the words of a failing client, as far as callers are not told of them. -/
def Event.mute : Event → Event
  | returned id (some (.error _)) => returned id (some (.error .emptyResponse))
  | settled id (.error failure) outcome => settled id (.error failure.mute) outcome
  | reported key error failure => reported key error failure.mute
  | e => e

def Worker.mute : Worker → Worker
  | ended job (.error failure) losing =>
    ended job (.error (if job.request.model.provider = .jan then failure.mute else failure)) losing
  | worker => worker

def Worker.callsJan : Worker → Bool
  | calling job _ => job.request.model.provider = .jan
  | _ => false

def Move.mute (worker : Worker) : Move → Move
  | own (.finish (.error error)) =>
    own (.finish (.error (if worker.callsJan then .emptyResponse else error)))
  | m => m

/-- A run without these words. -/
def State.muted (setup : Setup) (s : State) : List Move → List Move
  | [] => []
  | m :: rest => m.mute s.worker :: ((s.move setup m).map (fun t => t.muted setup rest)).getD []

@[simp] theorem CallFailure.mute_mute (failure : CallFailure) : failure.mute.mute = failure.mute := by
  cases failure <;> rfl

theorem CallFailure.mute_eq_cancelled {failure : CallFailure} :
    failure.mute = .cancelled ↔ failure = .cancelled := by
  cases failure <;> simp [mute]

/-- Jan's failures are told alike. -/
theorem classify_mute (failure : CallFailure) : classify failure.mute .jan = classify failure .jan := by
  cases failure <;> rfl

theorem classify_jan (error : ModelError) :
    classify (.model error) .jan = .modelNotActive janModelNotActive := rfl

theorem Event.mute_mute (e : Event) : e.mute.mute = e.mute := by
  cases e with
  | returned id reply => rcases reply with _ | _ | _ <;> rfl
  | settled id result outcome => cases result <;> simp [mute]
  | reported key error failure => simp [mute]
  | _ => rfl

theorem Worker.mute_mute (w : Worker) : w.mute.mute = w.mute := by
  cases w with
  | ended job result losing =>
    cases result with
    | error failure => by_cases h : job.request.model.provider = .jan <;> simp [mute, h]
    | ok text => rfl
  | _ => rfl

/-- Somebody who does not hear the words of failing clients. -/
def Perspective.deaf : Perspective where
  worker := Worker.mute
  event e := some e.mute
  worker_worker := Worker.mute_mute
  event_event e := congrArg some e.mute_mute
  isGone_worker w := by
    cases w with
    | ended job result losing => cases result <;> rfl
    | _ => rfl

namespace State

variable {setup : Setup} {store : Store} {s s' t t' u : State} {m : Move} {moves moves' : List Move}

theorem tearDown_trace (h : s.tearDown = some t) (trace : List Event) :
    ∃ events, t.trace = s.trace ++ events ∧
      { s with trace := trace }.tearDown = some { t with trace := trace ++ events } := by
  have hframe := tearDown_frame h
  unfold tearDown at h ⊢
  split at h
  · cases h
  · rename_i alive
    refine ⟨s.losses, by rw [hframe], ?_⟩
    rw [if_neg alive, hframe]
    simp [losses]

/-- The worker's own steps do not look into the record, settling apart. -/
theorem perform_trace {action : Action} (h : s.perform setup action = some t)
    (hsubmit : (Move.own action).submits = false) (hstop : (Move.own action).stops = false)
    (hconclude : ∀ now, action ≠ .conclude now) (trace : List Event) :
    ∃ events, t.trace = s.trace ++ events ∧
      { s with trace := trace }.perform setup action = some { t with trace := trace ++ events } := by
  cases action with
  | submit => cases hsubmit
  | cancel | drop => cases hstop
  | conclude now => exact absurd rfl (hconclude now)
  | tearDown => exact tearDown_trace h trace
  | audit tokens =>
    simp only [perform, audit] at h ⊢
    split at h
    · rename_i job outcome losing hw
      cases tokens with
      | none => simpa only [hw] using tearDown_trace h trace
      | some tokens =>
        cases h
        exact ⟨_, rfl, by simp only [emit]⟩
    · cases h
  | _ =>
    simp only [perform, take, finish, expire, interrupt, deliver, drained, runOut] at h ⊢
    repeat' split at h
    all_goals cases h
    -- Some of these steps add an event to the record, the others none.
    all_goals first
      | exact ⟨_, rfl, by simp_all [isCancelled, emit]⟩
      | exact ⟨[], by simp, by simp_all [isCancelled]⟩

theorem through_deaf (hw : s.worker.mute = s.worker) :
    s.through .deaf = { s with trace := s.trace.filterMap Perspective.deaf.event } := by
  rw [through, show Perspective.deaf.worker s.worker = s.worker from hw]

theorem deaf_trace {action : Action} (h : s.move setup (.own action) = some t)
    (hw : s.worker.mute = s.worker)
    (hsubmit : (Move.own action).submits = false) (hstop : (Move.own action).stops = false)
    (hconclude : ∀ now, action ≠ .conclude now) :
    ∃ u, (s.through .deaf).move setup (.own action) = some u ∧
      u.through .deaf = t.through .deaf := by
  rw [through_deaf hw]
  obtain ⟨events, htrace, hu⟩ := perform_trace h hsubmit hstop hconclude
    (s.trace.filterMap Perspective.deaf.event)
  exact ⟨_, hu, by simp [through, htrace]⟩

/-- What a call came to, as it is heard of without the words of the client. -/
theorem mute_ended (job : Job) (result : Except CallFailure String) (losing : Bool) :
    ∃ heard, (Worker.ended job result losing).mute = .ended job heard losing ∧
      ((∃ text, result = .ok text ∧ heard = .ok text) ∨
        ∃ failure other, result = .error failure ∧ heard = .error other ∧
          other.mute = failure.mute ∧ (other = .cancelled ↔ failure = .cancelled) ∧
          classify other job.request.model.provider =
            classify failure job.request.model.provider) := by
  cases result with
  | ok text => exact ⟨.ok text, rfl, .inl ⟨text, rfl, rfl⟩⟩
  | error failure =>
    refine ⟨_, rfl, .inr ⟨failure, _, rfl, rfl, ?_⟩⟩
    by_cases hjan : job.request.model.provider = .jan
    · simp [hjan, CallFailure.mute_eq_cancelled, classify_mute]
    · simp [hjan]

theorem deaf_settled {other failure : CallFailure} (hwords : other.mute = failure.mute) (id : Nat)
    (outcome : Outcome) : Perspective.deaf.event (.settled id (.error other) outcome) =
      Perspective.deaf.event (.settled id (.error failure) outcome) := by
  simp only [Perspective.deaf, Event.mute, hwords]

theorem deaf_reported {other failure : CallFailure} (hwords : other.mute = failure.mute)
    (key : ConversationKey) (error : PromptError) :
    Perspective.deaf.event (.reported key error other) =
      Perspective.deaf.event (.reported key error failure) := by
  simp only [Perspective.deaf, Event.mute, hwords]

theorem deaf_conclude {now : Instant} (h : s.conclude now = some t) :
    ∃ u, (s.through .deaf).conclude now = some u ∧ u.through .deaf = t.through .deaf := by
  cases hw : s.worker with
  | ended job result losing =>
    obtain ⟨heard, hmute, hheard⟩ := mute_ended job result losing
    have hended : (s.through .deaf).worker = .ended job heard losing := by
      rw [← hmute, ← hw]
      rfl
    rw [conclude_eq hw] at h
    cases h
    rw [conclude_eq hended]
    refine ⟨_, rfl, ?_⟩
    by_cases hown : ∃ p, s.current = some p ∧ p.id = job.id
    · obtain ⟨p, hc, hid⟩ := hown
      rcases hheard with ⟨text, rfl, rfl⟩ | ⟨failure, other, rfl, rfl, hwords, hlost, htold⟩
      · rw [settle_reply job text now hc hid,
          settle_reply (s := s.through .deaf) job text now hc hid]
        simp [through]
      · by_cases hf : failure = .cancelled
        · obtain rfl := hf
          obtain rfl := hlost.mpr rfl
          rw [settle_cancelled job now hc hid,
            settle_cancelled (s := s.through .deaf) job now hc hid]
          simp [through]
        · rw [settle_failure job failure now hc hid hf,
            settle_failure (s := s.through .deaf) job other now hc hid (fun he => hf (hlost.mp he)),
            htold]
          simp [through, List.filterMap_cons, deaf_settled hwords, deaf_reported hwords]
    · have stale : ∀ p, s.current = some p → p.id ≠ job.id := fun p hc hid => hown ⟨p, hc, hid⟩
      rw [settle_stale job result now stale,
        settle_stale (s := s.through .deaf) job heard now stale]
      rcases hheard with ⟨text, rfl, rfl⟩ | ⟨failure, other, rfl, rfl, hwords, _⟩
      · simp [through, emit]
      · simp [through, emit, List.filterMap_cons, deaf_settled hwords]
  | _ => simp [conclude, hw] at h

theorem deaf_tearDown (h : s.tearDown = some t) :
    ∃ u, (s.through .deaf).tearDown = some u ∧ u.through .deaf = t.through .deaf := by
  have hworker : (Perspective.deaf.worker s.worker).undelivered? = s.worker.undelivered? ∧
      (Perspective.deaf.worker s.worker).executing? = s.worker.executing? := by
    cases s.worker with
    | ended job result losing => cases result <;> exact ⟨rfl, rfl⟩
    | _ => exact ⟨rfl, rfl⟩
  unfold tearDown at h
  split at h
  · cases h
  · rename_i alive
    cases h
    refine ⟨_, if_neg (by simpa [through] using alive), ?_⟩
    simp [through, hworker]

theorem deaf_finish {result : Except ModelError String} {job : Job} {started : Instant}
    (hw : s.worker = .calling job started) (h : s.finish result = some t) :
    ∃ u, (s.through .deaf).move setup (Move.mute s.worker (.own (.finish result))) = some u ∧
      u.through .deaf = t.through .deaf := by
  have hcalling : (s.through .deaf).worker = .calling job started := by
    rw [through, hw]
    rfl
  simp only [finish, hw] at h
  cases h
  cases result with
  | ok text =>
    simp only [Move.mute, move, perform, finish, hcalling]
    exact ⟨_, rfl, by simp [through, emit]⟩
  | error error =>
    simp only [Move.mute, move, perform, finish, hcalling]
    refine ⟨_, rfl, ?_⟩
    by_cases hjan : job.request.model.provider = .jan
    · have hworker : Perspective.deaf.worker (.ended job (.error (.model .emptyResponse)) false) =
          Perspective.deaf.worker (.ended job (.error (.model error)) false) := by
        simp [Perspective.deaf, Worker.mute, hjan, CallFailure.mute]
      have hevent : Perspective.deaf.event (.returned job.id (some (.error .emptyResponse))) =
          Perspective.deaf.event (.returned job.id (some (.error error))) := rfl
      simp [through, emit, hw, Worker.callsJan, hjan, Except.mapError, List.filterMap_cons, hworker,
        hevent]
    · simp [through, emit, hw, Worker.callsJan, hjan]

/-- Who does not hear the words of Jan's clients sees the same of a step without them. -/
theorem deaf_move (h : s.move setup m = some t) :
    ∃ u, (s.through .deaf).move setup (m.mute s.worker) = some u ∧
      u.through .deaf = t.through .deaf := by
  cases m with
  | foreign change =>
    cases h
    exact ⟨_, rfl, by simp [through]⟩
  | own action =>
    cases action with
    | submit request now =>
      exact through_open .deaf (f := fun s => s.submit setup request now)
        (through_submit .deaf request now) h
    | cancel => exact through_open .deaf (f := cancelCurrent) (through_cancelCurrent .deaf) h
    | drop => exact through_open .deaf (f := drop) (through_drop .deaf) h
    | conclude now => exact deaf_conclude h
    | tearDown => exact deaf_tearDown h
    | finish result =>
      cases hw : s.worker with
      | calling job started => exact hw ▸ deaf_finish hw h
      | _ => simp [move, perform, finish, hw] at h
    | _ =>
      -- None of these steps finds the result of a call.
      have hw : s.worker.mute = s.worker := by
        cases hw : s.worker with
        | ended =>
          simp [move, perform, take, expire, interrupt, audit, deliver, drained, runOut, hw] at h
        | _ => rfl
      exact deaf_trace h hw rfl rfl (by simp)

/-- Views that leave out the events with the words of clients hear nothing else either. -/
theorem filterMap_deaf {α : Type} {f : Event → Option α}
    (hreturned : ∀ id reply, f (.returned id reply) = none)
    (hsettled : ∀ id result outcome, f (.settled id result outcome) = none)
    (hreported : ∀ key error failure, f (.reported key error failure) = none) (s : State) :
    (s.through .deaf).trace.filterMap f = s.trace.filterMap f := by
  refine filterMap_through .deaf ?_ s
  intro e
  have hmute : f e.mute = f e := by
    cases e with
    | returned id reply =>
      rw [hreturned]
      rcases reply with _ | _ | _ <;> exact hreturned _ _
    | settled id result outcome =>
      rw [hsettled]
      cases result <;> exact hsettled _ _ _
    | reported key error failure => rw [hreported, Event.mute, hreported]
    | _ => rfl
  exact hmute

theorem completions_deaf (s : State) : (s.through .deaf).completions = s.completions :=
  filterMap_deaf (fun _ _ => rfl) (fun _ _ _ => rfl) (fun _ _ _ => rfl) s

theorem audits_deaf (s : State) : (s.through .deaf).audits = s.audits :=
  filterMap_deaf (fun _ _ => rfl) (fun _ _ _ => rfl) (fun _ _ _ => rfl) s

/-- Runs that differ only in words with which calls to Jan fail look the same without them. -/
theorem play_muted (hs : s.through .deaf = s'.through .deaf) (h : s.play setup moves = some t)
    (h' : s'.play setup moves' = some t') (same : s.muted setup moves = s'.muted setup moves') :
    t.through .deaf = t'.through .deaf := by
  induction moves generalizing s s' moves' with
  | nil =>
    cases moves' with
    | nil =>
      cases h
      cases h'
      exact hs
    | cons => cases same
  | cons m rest ih =>
    cases moves' with
    | nil => cases same
    | cons m' rest' =>
      obtain ⟨u, hu, hrest⟩ := Option.bind_eq_some_iff.mp h
      obtain ⟨u', hu', hrest'⟩ := Option.bind_eq_some_iff.mp h'
      simp only [muted, hu, hu', Option.map_some, Option.getD_some, List.cons.injEq] at same
      obtain ⟨hfirst, hlater⟩ := same
      obtain ⟨v, hv, hseen⟩ := deaf_move hu
      obtain ⟨v', hv', hseen'⟩ := deaf_move hu'
      rw [hs, hfirst] at hv
      obtain rfl := Option.some.inj (hv.symm.trans hv')
      exact ih (hseen.symm.trans hseen') hrest hrest' hlater

/-- Where a call to Jan failed nobody can tell how. Two runs that differ only in the errors with
which calls to Jan fail leave the same current submission, numbers, flag and conversations, and the
same answers and audit records. The caller of the current one is told in fixed words, and so is the
caller whose submission to Jan meets no worker: with a worker whose call fails in whatever way all
comes out the same, but for the record of the call and the audit. Time-outs and cancellations are
told as what they are, and of other providers the caller hears what the client said. -/
theorem jan_failures_alike (h : (initial store).play setup moves = some s)
    (h' : (initial store).play setup moves' = some t)
    (same : (initial store).muted setup moves = (initial store).muted setup moves') :
    (s.current = t.current ∧ s.lastId = t.lastId ∧ s.running = t.running ∧ s.store = t.store ∧
      s.completions = t.completions ∧ s.audits = t.audits) ∧
    (∀ job error losing p, s.worker = .ended job (.error (.model error)) losing →
      s.current = some p → p.id = job.id → job.request.model.provider = .jan →
      ∀ now tokens, ∃ u,
        s.run setup [.conclude now, .audit (some tokens), .deliver] = some u ∧
        (job.ticket, ⟨job.request, .failed (.modelNotActive janModelNotActive)⟩) ∈ u.completions ∧
        (job.id, ⟨job.request.key, job.request.model, .error, tokens⟩) ∈ u.audits) ∧
    (∀ request now, request.model.provider = .jan → s.current = none → s.closed = false →
      s.worker.isGone = true →
      (s.tickets, ⟨{ request with elapsed := none }, .failed (.modelNotActive janModelNotActive)⟩) ∈
        (s.submit setup request now).completions ∧
      ∀ error began ended tokens, ∃ v,
        { s with worker := .idle }.run setup [.submit request now, .take began,
          .finish (.error error), .conclude ended, .audit (some tokens), .deliver] = some v ∧
        { v with worker := s.worker, trace := (s.submit setup request now).trace } =
          s.submit setup request now ∧
        v.completions = (s.submit setup request now).completions) ∧
    ∀ job ∈ s.accepted, ∀ failure outcome, (job.id, .error failure, outcome) ∈ s.settlements →
      ∀ completion, (job.ticket, completion) ∈ s.completions →
        completion.outcome = if job.id ∈ s.cancelled then .skipped
          else .ofFailure job.request.model.provider failure := by
  have hr : Reachable setup store s := ⟨moves, h⟩
  refine ⟨?_, ?_, ?_, fun job hj failure outcome hset completion hm => told_failure hr hj hset hm⟩
  · have hseen := play_muted rfl h h' same
    refine ⟨?_, ?_, ?_, ?_, ?_, ?_⟩
    · show (s.through .deaf).current = (t.through .deaf).current
      rw [hseen]
    · show (s.through .deaf).lastId = (t.through .deaf).lastId
      rw [hseen]
    · show (s.through .deaf).running = (t.through .deaf).running
      rw [hseen]
    · show (s.through .deaf).store = (t.through .deaf).store
      rw [hseen]
    · rw [← completions_deaf s, hseen, completions_deaf]
    · rw [← audits_deaf s, hseen, audits_deaf]
  · intro job error losing p ended busy own hjan now tokens
    refine ⟨_, run_answering ended busy own (by simp) now tokens, ?_, ?_⟩
    · simp [completions, hjan, classify_jan, List.filterMap_cons]
    · simp [audits, hjan, classify_jan, AuditLabel.ofOutcome, List.filterMap_cons]
  · intro request now hjan idle opened dead
    have hfailing : request.failing noWorker =
        ⟨{ request with elapsed := none }, .failed (.modelNotActive janModelNotActive)⟩ := by
      rw [Request.failing, hjan]
      rfl
    obtain ⟨_, htold, _⟩ := @undone_without_worker setup store s request now moves h idle opened dead
    refine ⟨hfailing ▸ htold, ?_⟩
    intro error began ended tokens
    obtain ⟨v, hv, hsame, hcompletions, _⟩ := @alike_with_worker setup store s request now moves
      error h idle opened dead (by rw [hjan]; rfl) began ended tokens
    exact ⟨v, hv, hsame, hcompletions⟩

/-- Two calls to Jan, of which one is refused and the other crashes. The log tells them apart. -/
theorem jan_failures_alike_refused_or_crashed :
    ∃ (run : ModelError → List Move) (error error' : ModelError) (s t : State) (request : Request),
      (initial .empty).play ⟨"p", compose⟩ (run error) = some s ∧
      (initial .empty).play ⟨"p", compose⟩ (run error') = some t ∧
      s.logged ≠ t.logged ∧ s.completions = t.completions ∧
      t.completions = [(0, ⟨request, .failed (.modelNotActive janModelNotActive)⟩)] := by
  let request : Request := ⟨⟨"k"⟩, "one", [], ⟨.jan, "m"⟩, 0, none, none⟩
  let run (error : ModelError) : List Move := [.own (.submit request 0), .own (.take 1),
    .own (.finish (.error error)), .own (.conclude 2), .own (.audit (some ⟨0, 0, 0⟩)), .own .deliver]
  have h : (initial .empty).play ⟨"p", compose⟩ (run (.request "refused")) = some _ := rfl
  have h' : (initial .empty).play ⟨"p", compose⟩ (run (.aborted "crashed")) = some _ := rfl
  have hs : (initial .empty).muted ⟨"p", compose⟩ (run (.request "refused")) =
    run .emptyResponse := rfl
  have hs' : (initial .empty).muted ⟨"p", compose⟩ (run (.aborted "crashed")) =
    run .emptyResponse := rfl
  obtain ⟨⟨_, _, _, _, hcompletions, _⟩, _⟩ := jan_failures_alike h h' (hs.trans hs'.symm)
  exact ⟨run, .request "refused", .aborted "crashed", _, _, request, h, h', by decide +kernel,
    hcompletions, rfl⟩

end State

end Parley
