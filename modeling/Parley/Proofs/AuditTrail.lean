import Parley.Proofs.Cancellations
import Parley.Proofs.Skipped

namespace Parley

/-- What is said of a submission: a line of the error log, what its call came to and what came of
that, the audit record, or the answer. -/
inductive Notice
  | error (entry : LogEntry)
  | settled (id : Nat) (result : Except CallFailure String) (outcome : Outcome)
  | audit (id : Nat) (record : Audit)
  | answer (ticket : Nat) (outcome : Outcome)

def Event.notice? (tickets : List Nat) : Event → Option Notice
  | settled id result outcome => some (.settled id result outcome)
  | audited id audit => some (.audit id audit)
  | resolved ticket completion =>
    if ticket ∈ tickets then some (.answer ticket completion.outcome) else none
  | e => (e.log?.filter (fun entry => entry.level = .error)).map .error

def Notice.audit? : Notice → Option (Nat × Audit)
  | audit id record => some (id, record)
  | _ => none

/-- What the worker made of a submission. What the call of a superseded one came to does not
matter. -/
inductive Verdict
  | replied (reply : Reply)
  | failed (failure : CallFailure)
  | superseded (result : Except CallFailure String)

def Verdict.result : Verdict → Except CallFailure String
  | replied reply => .ok reply.message.content
  | failed failure => .error failure
  | superseded result => result

structure Processed where
  job : Job
  verdict : Verdict
  tokens : TokenUsage

def Job.timed (job : Job) (elapsed : Option Duration) : Job :=
  { job with request := { job.request with elapsed := elapsed } }

namespace Processed

def outcome (x : Processed) : Outcome :=
  match x.verdict with
  | .replied reply => .generated reply
  | .failed failure => .failed (classify failure x.job.request.model.provider)
  | .superseded _ => .skipped

def errors (x : Processed) : List Notice :=
  match x.verdict with
  | .failed failure =>
    [.error ⟨.error, "Error occurred while processing chat message: " ++
      (classify failure x.job.request.model.provider).text ++ " (" ++ failure.text ++ ")"⟩]
  | _ => []

def ruling (x : Processed) : List Notice :=
  x.errors ++ [.settled x.job.id x.verdict.result x.outcome]

def record (x : Processed) : Audit :=
  ⟨x.job.request.key, x.job.request.model, .ofOutcome x.outcome, x.tokens⟩

def notices (x : Processed) : List Notice :=
  x.ruling ++ [.audit x.job.id x.record, .answer x.job.ticket x.outcome]

end Processed

/-- The outcomes that a label stands for. -/
def AuditLabel.Tells : AuditLabel → Outcome → Prop
  | ok, outcome => ∃ reply, outcome = .generated reply
  | timeout, outcome => ∃ seconds, outcome = .failed (.timeout seconds)
  | error, outcome => ∃ e, outcome = .failed e ∧ ∀ seconds, e ≠ .timeout seconds
  | skipped, outcome => outcome = .skipped

theorem AuditLabel.ofOutcome_eq_iff (label : AuditLabel) (outcome : Outcome) :
    ofOutcome outcome = label ↔ label.Tells outcome := by
  rcases outcome with reply | (_ | _ | seconds | _) | _ <;> cases label <;> simp [ofOutcome, Tells]

/-- Every label is one of four. -/
theorem AuditLabel.length_eq (labels : List AuditLabel) :
    labels.length =
      labels.count ok + labels.count timeout + labels.count error + labels.count skipped := by
  induction labels with
  | nil => rfl
  | cons label rest ih =>
    cases label <;> simp [ih] <;> omega

namespace Processed

theorem audits_ruling (x : Processed) : x.ruling.filterMap Notice.audit? = [] := by
  unfold ruling errors
  split <;> rfl

theorem audits_notices (x : Processed) :
    x.notices.filterMap Notice.audit? = [(x.job.id, x.record)] := by
  simp [notices, audits_ruling, Notice.audit?, List.filterMap_cons]

theorem answer_notMem_ruling (x : Processed) (ticket : Nat) (outcome : Outcome) :
    .answer ticket outcome ∉ x.ruling := by
  unfold ruling errors
  split <;> simp

theorem answer_mem_notices {x : Processed} {ticket : Nat} {outcome : Outcome} :
    .answer ticket outcome ∈ x.notices ↔ ticket = x.job.ticket ∧ outcome = x.outcome := by
  simp [notices, answer_notMem_ruling]

end Processed

namespace State

variable {setup : Setup} {store : Store} {s t : State}

def notices (s : State) : List Notice :=
  s.trace.filterMap (Event.notice? (s.accepted.map Job.ticket))

/-- What was said already of the submission in the worker's hands, and the accepted submissions
whose callers still wait. -/
inductive InHand (queue : List Job) : Worker → List Job → List Notice → Prop
  | idle : InHand queue .idle queue []
  | draining {job} : InHand queue (.draining job) queue []
  | calling {job started} : InHand queue (.calling job started) (job :: queue) []
  | ended {job result losing} : InHand queue (.ended job result losing) (job :: queue) []
  | settled (x : Processed) (elapsed : Option Duration) {losing} :
      InHand queue (.settled (x.job.timed elapsed) x.outcome losing) (x.job :: queue) x.ruling
  | audited (x : Processed) (elapsed : Option Duration) {losing} :
      InHand queue (.audited (x.job.timed elapsed) x.outcome losing) (x.job :: queue)
        (x.ruling ++ [.audit x.job.id x.record])

/-- All has been said of the submissions that were accepted first. -/
def Reported (s : State) : Prop :=
  ∃ (done : List Processed) (waiting : List Job) (said : List Notice),
    s.accepted = done.map Processed.job ++ waiting ∧
    s.notices = done.flatMap Processed.notices ++ said ∧ InHand s.queue s.worker waiting said

@[simp] theorem storeless_notice (tickets : List Nat) : Storeless (Event.notice? tickets) :=
  ⟨fun _ _ => rfl, fun _ => rfl⟩

theorem InHand.joined {queue waiting : List Job} {worker : Worker} {said : List Notice}
    (h : InHand queue worker waiting said) (job : Job) :
    InHand (queue ++ [job]) worker (waiting ++ [job]) said := by
  cases h with
  | idle => exact .idle
  | draining => exact .draining
  | calling => exact .calling
  | ended => exact .ended
  | settled x elapsed => exact .settled x elapsed
  | audited x elapsed => exact .audited x elapsed

/-- What was said does not depend on who is accepted next. -/
theorem notices_joined {tickets : List Nat} {ticket : Nat}
    (hnew : ∀ completion, (ticket, completion) ∉ s.completions) :
    s.trace.filterMap (Event.notice? (tickets ++ [ticket])) =
      s.trace.filterMap (Event.notice? tickets) := by
  refine List.filterMap_congr ?_
  intro e he
  cases e with
  | resolved other completion =>
    have hne : other ≠ ticket := by
      rintro rfl
      exact hnew completion (List.mem_filterMap.mpr ⟨_, he, rfl⟩)
    simp [Event.notice?, hne]
  | _ => rfl

/-- What is new in the record, if it accepts nobody. -/
theorem notices_grown {events : List Event} (htrace : t.trace = s.trace ++ events)
    (hnone : events.filterMap Event.accepted? = []) :
    t.accepted = s.accepted ∧
      t.notices = s.notices ++ events.filterMap (Event.notice? (s.accepted.map Job.ticket)) := by
  have ha : t.accepted = s.accepted := by
    rw [accepted, htrace, List.filterMap_append, hnone, List.append_nil]
    rfl
  exact ⟨ha, by rw [notices, ha, htrace, List.filterMap_append]; rfl⟩

/-- Nobody is accepted, and nothing is said. -/
theorem Reported.kept {events : List Event} (hs : Reported s)
    (htrace : t.trace = s.trace ++ events) (hnone : events.filterMap Event.accepted? = [])
    (hquiet : events.filterMap (Event.notice? (s.accepted.map Job.ticket)) = [])
    (hw : t.worker = s.worker) (hq : t.queue = s.queue) : Reported t := by
  obtain ⟨ha, hn⟩ := notices_grown htrace hnone
  rw [Reported, ha, hn, hquiet, List.append_nil, hw, hq]
  exact hs

/-- The worker has its verdict on the submission in its hands. -/
theorem Reported.settled {events : List Event} {job : Job} {result losing losing'}
    (hs : Reported s) (ended : s.worker = .ended job result losing) (x : Processed)
    (elapsed : Option Duration) (hjob : x.job = job) (htrace : t.trace = s.trace ++ events)
    (hnone : events.filterMap Event.accepted? = [])
    (hsaid : events.filterMap (Event.notice? (s.accepted.map Job.ticket)) = x.ruling)
    (hw : t.worker = .settled (job.timed elapsed) x.outcome losing') (hq : t.queue = s.queue) :
    Reported t := by
  obtain ⟨done, waiting, said, hacc, hbefore, hhand⟩ := hs
  obtain ⟨ha, hn⟩ := notices_grown htrace hnone
  rw [ended] at hhand
  cases hhand
  subst hjob
  rw [List.append_nil] at hbefore
  exact ⟨done, _, _, ha.trans hacc, by rw [hn, hbefore, hsaid],
    by rw [hw, hq]; exact .settled x elapsed⟩

theorem Reported.worked {worker queue events} (hs : Reported s)
    (h : WorkerStep s worker queue events) (alive : worker.isGone = false) :
    Reported { s with worker := worker, queue := queue, trace := s.trace ++ events } := by
  obtain ⟨done, waiting, said, hacc, hsaid, hhand⟩ := hs
  obtain ⟨ha, hn⟩ := @notices_grown s { s with
    worker := worker, queue := queue, trace := s.trace ++ events } events rfl
    (h.filterMap_eq_nil workless_accepted)
  rw [Reported, ha, hn, hsaid, List.append_assoc]
  -- Unless the step says something, the same submissions are done with.
  have hquiet (hnone : events.filterMap (Event.notice? (s.accepted.map Job.ticket)) = [])
      (hrest : InHand queue worker waiting said) :
      ∃ (done' : List Processed) (waiting : List Job) (said' : List Notice),
        s.accepted = done'.map Processed.job ++ waiting ∧
          done.flatMap Processed.notices ++
            (said ++ events.filterMap (Event.notice? (s.accepted.map Job.ticket))) =
              done'.flatMap Processed.notices ++ said' ∧ InHand queue worker waiting said' :=
    ⟨done, waiting, said, hacc, by rw [hnone, List.append_nil], hrest⟩
  cases h with
  | skip idle next =>
    rw [idle, next] at hhand
    cases hhand
    exact hquiet rfl .ended
  | call now idle next =>
    rw [idle, next] at hhand
    cases hhand
    exact hquiet rfl .calling
  | finish result calling | expire calling | interrupt calling =>
    rw [calling] at hhand
    cases hhand
    exact hquiet rfl .ended
  | drain reply draining =>
    rw [draining] at hhand
    cases hhand
    exact hquiet rfl .idle
  | audit tokens settled =>
    rw [settled] at hhand
    cases hhand with
    | settled x elapsed =>
      exact ⟨done, _, _, hacc, rfl, .audited { x with tokens := tokens } elapsed⟩
  | @deliver job outcome losing audited =>
    rw [audited] at hhand
    cases hhand with
    | audited x elapsed =>
      have hin : x.job.ticket ∈ s.accepted.map Job.ticket := by rw [hacc]; simp
      refine ⟨done ++ [x], s.queue, [], by rw [hacc]; simp, ?_, ?_⟩
      · simp [Event.notice?, Job.timed, Processed.notices, List.mem_map.mp hin]
      · cases losing
        · exact .idle
        · exact .draining
  | outlive | runOut | die => cases alive

/-- Nothing is said of a submission that stops another one. -/
theorem turnedAway_unsaid {p : Pending} {completion : Completion} (hn : Numbered s) :
    [p.undoing s.store, .cancelled p.key, .resolved s.tickets completion].filterMap
      (Event.notice? (s.accepted.map Job.ticket)) = [] := by
  have hnew : s.tickets ∉ s.accepted.map Job.ticket := by
    intro hm
    obtain ⟨job, hj, he⟩ := List.mem_map.mp hm
    exact Nat.ne_of_lt (hn.issued job hj) he
  rw [Pending.filterMap_undoing _ _ _ (storeless_notice _)]
  simp only [List.filterMap_cons, Event.notice?, if_neg hnew]
  rfl

theorem Reported.step (hn : Numbered s) (hans : Answers s) (hs : Reported s)
    (h : Effect setup s t) (alive : t.worker.isGone = false) : Reported t := by
  cases h with
  | rested => exact hs.kept (List.append_nil _).symm rfl rfl rfl rfl
  | stopped => exact hs.kept rfl (by simp) (by simp [Event.notice?, Event.log?]) rfl rfl
  | debounced request busy =>
    exact hs.kept rfl (by simp) (turnedAway_unsaid hn) rfl rfl
  | queued request now idle alive' =>
    obtain ⟨done, waiting, said, hacc, hsaid, hhand⟩ := hs
    have hnew : ∀ completion, (s.tickets, completion) ∉ s.completions := fun completion hm =>
      Nat.lt_irrefl _ (hans.issued _ (answered_of_completion hm))
    have hgrown : (s.trace ++ setup.acceptance s request now).filterMap Event.accepted? =
        s.accepted ++ [setup.job s request now] := by simp [accepted]
    refine ⟨done, waiting ++ [setup.job s request now], said, ?_, ?_, hhand.joined _⟩
    · rw [accepted, hgrown, hacc, List.append_assoc]
    · rw [notices, accepted, hgrown, List.map_append, List.filterMap_append,
        Setup.filterMap_acceptance _ _ _ _ (storeless_notice _)]
      refine (List.append_nil _).trans ((notices_joined hnew).trans hsaid)
  | refused request now idle dead =>
    rw [dead] at alive
    cases alive
  | @discarded job result losing ended =>
    exact hs.settled ended ⟨job, .superseded result, ⟨0, 0, 0⟩⟩ job.request.elapsed rfl rfl rfl rfl
      rfl rfl
  | @hushed job losing p ended =>
    exact hs.settled ended ⟨job, .superseded (.error .cancelled), ⟨0, 0, 0⟩⟩ job.request.elapsed rfl
      rfl rfl rfl rfl rfl
  | @generated job text losing p elapsed ended busy own =>
    exact hs.settled ended ⟨job, .replied ⟨⟨.assistant, text⟩, elapsed⟩, ⟨0, 0, 0⟩⟩ (some elapsed)
      rfl rfl rfl rfl rfl rfl
  | @failed job failure losing p ended busy own lost =>
    exact hs.settled ended ⟨job, .failed failure, ⟨0, 0, 0⟩⟩ job.request.elapsed rfl rfl (by simp)
      (by simp [Event.notice?]; rfl) rfl rfl
  | worked step => exact hs.worked step alive

/-- A worker that is there now was there all the time. -/
theorem reachable_reported (hr : Reachable setup store s) (alive : s.worker.isGone = false) :
    Reported s := by
  revert alive
  refine hr.induction (P := fun s => s.worker.isGone = false → Reported s)
    (fun _ => ⟨[], [], [], rfl, rfl, .idle⟩) ?_ (fun _ _ hs => hs)
  intro s t hr hs h alive
  cases hw : s.worker.isGone with
  | false => exact (hs hw).step (reachable_numbered hr) (reachable_answers hr) h alive
  | true =>
    rw [h.gone hw] at alive
    cases alive

theorem audits_eq (s : State) : s.audits = s.notices.filterMap Notice.audit? := by
  rw [audits, notices, List.filterMap_filterMap]
  refine List.filterMap_congr ?_
  intro e _
  cases e with
  | resolved ticket completion =>
    simp only [Event.notice?]
    split <;> rfl
  | cancelled | rollbackSkipped | reported => rfl
  | _ => rfl

theorem mem_notices_answer {ticket : Nat} {outcome : Outcome} :
    .answer ticket outcome ∈ s.notices ↔
      ticket ∈ s.accepted.map Job.ticket ∧
        ∃ completion, (ticket, completion) ∈ s.completions ∧ completion.outcome = outcome := by
  rw [notices, completions]
  simp only [List.mem_filterMap]
  constructor
  · rintro ⟨e, he, hn⟩
    cases e with
    | resolved other completion =>
      simp only [Event.notice?] at hn
      split at hn
      · rename_i hin
        cases hn
        exact ⟨hin, completion, ⟨_, he, rfl⟩, rfl⟩
      · cases hn
    | cancelled | rollbackSkipped | reported => cases hn
    | _ => cases hn
  · rintro ⟨hin, completion, ⟨e, he, hc⟩, rfl⟩
    cases e with
    | resolved other completion =>
      cases hc
      exact ⟨_, he, if_pos hin⟩
    | _ => cases hc

/-- Nobody who waits was answered. -/
theorem InHand.unanswered {queue waiting : List Job} {worker : Worker} {said : List Notice}
    (h : InHand queue worker waiting said) (ticket : Nat) (outcome : Outcome) :
    .answer ticket outcome ∉ said := by
  cases h <;> simp [Processed.answer_notMem_ruling]

/-- Of those who wait there is a record of the first at most. -/
theorem InHand.audits {queue waiting : List Job} {worker : Worker} {said : List Notice}
    (h : InHand queue worker waiting said) :
    (said.filterMap Notice.audit?).map Prod.fst <+: waiting.map Job.id := by
  cases h with
  | settled x elapsed => simp [Processed.audits_ruling]
  | audited x elapsed => simp [Processed.audits_ruling, Notice.audit?]
  | _ => exact List.nil_prefix

section Balance

variable {done : List Processed} {waiting : List Job} {said : List Notice}

theorem audits_done (hsaid : s.notices = done.flatMap Processed.notices ++ said) :
    s.audits = done.map (fun x => (x.job.id, x.record)) ++ said.filterMap Notice.audit? := by
  rw [audits_eq, hsaid, List.filterMap_append, List.filterMap_flatMap, List.map_eq_flatMap]
  simp only [Processed.audits_notices]

theorem accepted_of_done (hacc : s.accepted = done.map Processed.job ++ waiting) {x : Processed}
    (hx : x ∈ done) : x.job ∈ s.accepted := by
  rw [hacc]
  exact List.mem_append_left _ (List.mem_map_of_mem hx)

/-- Whoever was answered is done with, and was told the outcome that is on record. -/
theorem done_of_completion {job : Job} {completion : Completion} (hn : Numbered s)
    (hacc : s.accepted = done.map Processed.job ++ waiting)
    (hsaid : s.notices = done.flatMap Processed.notices ++ said)
    (hhand : InHand s.queue s.worker waiting said) (hj : job ∈ s.accepted)
    (hm : (job.ticket, completion) ∈ s.completions) :
    ∃ x ∈ done, x.job = job ∧ x.outcome = completion.outcome := by
  have ha : .answer job.ticket completion.outcome ∈ s.notices :=
    mem_notices_answer.mpr ⟨List.mem_map_of_mem hj, completion, hm, rfl⟩
  rw [hsaid] at ha
  rcases List.mem_append.mp ha with ha | ha
  · obtain ⟨x, hx, ha⟩ := List.mem_flatMap.mp ha
    obtain ⟨ht, ho⟩ := Processed.answer_mem_notices.mp ha
    have hxa := accepted_of_done hacc hx
    exact ⟨x, hx, List.inj_on_of_nodup_map hn.tickets_nodup hxa hj ht.symm, ho.symm⟩
  · exact absurd ha (hhand.unanswered _ _)

/-- While the worker is there, nothing came of a submission exactly if it was cancelled. -/
theorem skipped_iff_cancelled (hr : Reachable setup store s) (alive : s.worker.isGone = false)
    (hacc : s.accepted = done.map Processed.job ++ waiting)
    (hsaid : s.notices = done.flatMap Processed.notices ++ said) {x : Processed} (hx : x ∈ done) :
    x.outcome = .skipped ↔ x.job.id ∈ s.cancelled := by
  have hxa := accepted_of_done hacc hx
  have ha : .answer x.job.ticket x.outcome ∈ s.notices := by
    rw [hsaid]
    exact List.mem_append_left _
      (List.mem_flatMap.mpr ⟨x, hx, Processed.answer_mem_notices.mpr ⟨rfl, rfl⟩⟩)
  obtain ⟨_, completion, hm, hc⟩ := mem_notices_answer.mp ha
  constructor
  · intro hskip
    by_contra hn
    obtain ⟨hgone, _⟩ := stuck_of_skipped hr hxa hm (hc.trans hskip) hn
    rw [hgone] at alive
    cases alive
  · intro hcan
    exact hc.symm.trans (told_skipped hr hxa hcan hm)

/-- As many records are labelled skipped as submissions were cancelled. -/
theorem labelled_skipped (hr : Reachable setup store s) (alive : s.worker.isGone = false)
    (hacc : s.accepted = done.map Processed.job)
    (hsaid : s.notices = done.flatMap Processed.notices)
    (hlabels : s.audits.map (fun record => record.2.label) =
      done.map (fun x => .ofOutcome x.outcome)) :
    s.labelled .skipped = s.cancelled.length := by
  rw [(reachable_cancelled hr).length_eq (reachable_numbered hr), labelled, hlabels, hacc,
    List.count, List.countP_map, List.countP_map]
  refine List.countP_congr ?_
  intro x hx
  simp only [Function.comp_apply, beq_iff_eq, decide_eq_true_iff, AuditLabel.ofOutcome_eq_iff]
  exact skipped_iff_cancelled hr alive (hacc.trans (List.append_nil _).symm)
    (hsaid.trans (List.append_nil _).symm) hx

end Balance

/-- A submission that meets a current one is not accepted, and nothing is said of it. -/
theorem submit_unsaid {request : Request} {now : Instant} (hn : Numbered s)
    (busy : s.current.isSome = true) :
    (s.submit setup request now).accepted = s.accepted ∧
      (s.submit setup request now).notices = s.notices := by
  obtain ⟨p, hp⟩ := Option.isSome_iff_exists.mp busy
  obtain ⟨ha, hsaid⟩ := @notices_grown s (s.submit setup request now)
    [p.undoing s.store, .cancelled p.key, .resolved s.tickets ⟨request, .skipped⟩]
    (by simp [submit_busy hp, abandon_eq, emit]) (by simp)
  rw [turnedAway_unsaid hn, List.append_nil] at hsaid
  exact ⟨ha, hsaid⟩

/-- The audit trail balances as long as there is a worker. All that is said of the accepted
submissions is said in the order of acceptance: an error if the submission failed, its record, its
answer. A submission that stops another one leaves no trace there. Whenever the worker has nothing
to do, there are as many records as accepted submissions, and as many are labelled skipped as
submissions were given up. -/
theorem audit_trail_balances {moves : List Move}
    (h : (initial store).play setup moves = some s) (alive : s.worker.isGone = false) :
    Reported s ∧
    s.audits.map Prod.fst <+: s.accepted.map Job.id ∧
    (∀ job ∈ s.accepted, ∀ completion, (job.ticket, completion) ∈ s.completions →
      ∃ record, (job.id, record) ∈ s.audits ∧ record.key = job.request.key ∧
        record.model = job.request.model ∧
        ∀ label, record.label = label ↔ label.Tells completion.outcome) ∧
    (∀ t u request now, Passes setup (initial store) moves t (.own (.submit request now)) u →
      t.current.isSome = true → u.accepted = t.accepted ∧ u.notices = t.notices) ∧
    s.logged.count ⟨.info, "Cancelled running prompt"⟩ =
      (initial store).meetings setup Move.submits moves +
        (initial store).meetings setup Move.stops moves ∧
    (s.queue = [] → s.worker = .idle →
      s.accepted.length =
        s.labelled .ok + s.labelled .timeout + s.labelled .error + s.labelled .skipped ∧
      s.labelled .skipped = s.logged.count ⟨.info, "Cancelled running prompt"⟩) := by
  have hr : Reachable setup store s := ⟨moves, h⟩
  have hreported := reachable_reported hr alive
  have hcount : s.logged.count ⟨.info, "Cancelled running prompt"⟩ = s.cancelled.length :=
    (count_cancelled s).trans (reachable_cancelled hr).noted
  obtain ⟨done, waiting, said, hacc, hsaid, hhand⟩ := hreported
  have haudits := audits_done hsaid
  refine ⟨reachable_reported hr alive, ?_, ?_, ?_, hcount.trans (play_cancelled h), ?_⟩
  · rw [haudits, hacc, List.map_append, List.map_append, List.map_map, List.map_map]
    exact (List.prefix_append_right_inj _).mpr hhand.audits
  · intro job hj completion hm
    obtain ⟨x, hx, rfl, ho⟩ := done_of_completion (reachable_numbered hr) hacc hsaid hhand hj hm
    refine ⟨x.record, ?_, rfl, rfl, fun label => ho ▸ AuditLabel.ofOutcome_eq_iff label x.outcome⟩
    rw [haudits]
    exact List.mem_append_left _ (List.mem_map_of_mem (f := fun x => (x.job.id, x.record)) hx)
  · intro t u request now hp busy
    obtain ⟨before, _, _, ht, hu⟩ := hp
    have hu : t.perform setup (.submit request now) = some u := hu
    simp only [perform] at hu
    split at hu <;> cases hu
    exact submit_unsaid (reachable_numbered ⟨before, ht⟩) busy
  · intro hq hw
    rw [hq, hw] at hhand
    cases hhand
    rw [List.append_nil] at hacc hsaid
    have hlabels : s.audits.map (fun record => record.2.label) =
        done.map (fun x => .ofOutcome x.outcome) := by
      rw [haudits]
      simp [Processed.record]
    refine ⟨?_, (labelled_skipped hr alive hacc hsaid hlabels).trans hcount.symm⟩
    have hlength : s.accepted.length = (s.audits.map (fun record => record.2.label)).length := by
      rw [hlabels, hacc, List.length_map, List.length_map]
    rw [hlength]
    exact AuditLabel.length_eq _

/-- A failure, and a submission that the next one stops in the queue. -/
theorem audit_trail_balances_failed_and_stopped :
    ∃ moves s, (initial .empty).play ⟨"p", compose⟩ moves = some s ∧ s.accepted.length = 2 ∧
      s.labelled .error = 1 ∧ s.labelled .skipped = 1 ∧
      s.logged.count ⟨.info, "Cancelled running prompt"⟩ = 1 := by
  let request (input : String) : Request := ⟨⟨"k"⟩, input, [], ⟨.mock, "m"⟩, 0, none, none⟩
  let moves : List Move := [.own (.submit (request "a") 0), .own (.take 1),
    .own (.finish (.error (.request "no"))), .own (.conclude 2),
    .own (.audit (some ⟨0, 0, 0⟩)), .own .deliver, .own (.submit (request "b") 3),
    .own (.submit (request "c") 4), .own (.take 5), .own (.conclude 6),
    .own (.audit (some ⟨0, 0, 0⟩)), .own .deliver]
  have h : (initial .empty).play ⟨"p", compose⟩ moves = some _ := rfl
  obtain ⟨_, _, _, _, _, hbalance⟩ := audit_trail_balances h rfl
  obtain ⟨_, hskipped⟩ := hbalance rfl rfl
  have hone : State.labelled _ .skipped = 1 := hskipped.trans (by decide +kernel)
  exact ⟨moves, _, h, by decide +kernel, by decide +kernel, hone, hskipped.symm.trans hone⟩

end State

end Parley
