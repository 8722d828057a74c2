import Parley.Proofs.Acceptance

namespace Parley

/-- The request of a completion is the one that was made, with the time of the reply if there is
one. -/
def Completion.Of (completion : Completion) (request : Request) : Prop :=
  completion.request = { request with elapsed := completion.outcome.reply?.map Reply.elapsed }

theorem Completion.Of.elapsed_iff {completion : Completion} {request : Request}
    (h : completion.Of request) (d : Duration) :
    completion.request.elapsed = some d ↔
      ∃ reply, completion.outcome = .generated reply ∧ reply.elapsed = d := by
  rw [h]
  cases completion.outcome <;> simp [Outcome.reply?]

def Worker.promise? : Worker → Option (Nat × Completion)
  | calling job _ | ended job _ _ => some (job.ticket, ⟨job.request, .skipped⟩)
  | settled job outcome _ | audited job outcome _ => some (job.ticket, ⟨job.request, outcome⟩)
  | idle | draining _ | gone _ => none

namespace State

variable {setup : Setup} {store : Store} {s t : State} {sent : List Request} {request : Request}

/-- What the callers who wait would hear now: the outcome of their submission, or that nothing came
of it. -/
def promises (s : State) : List (Nat × Completion) :=
  s.worker.promise?.toList ++ s.queue.map (fun job => (job.ticket, ⟨job.request, .skipped⟩))

inductive Intake (s : State) (request : Request) (t : State) : Prop
  | turnedAway (accepted : t.accepted = s.accepted) (promised : t.promises = s.promises)
      (told : t.completions = s.completions ++ [(s.tickets, ⟨request, .skipped⟩)])
  | queued {job : Job} (own : job.ticket = s.tickets) (accepted : t.accepted = s.accepted ++ [job])
      (promised : t.promises =
        s.promises ++ [(s.tickets, ⟨{ request with elapsed := none }, .skipped⟩)])
      (told : t.completions = s.completions)
  | refused {job : Job} {error : PromptError} (own : job.ticket = s.tickets)
      (accepted : t.accepted = s.accepted ++ [job]) (promised : t.promises = s.promises)
      (told : t.completions =
        s.completions ++ [(s.tickets, ⟨{ request with elapsed := none }, .failed error⟩)])

theorem submit_intake (request : Request) (now : Instant) :
    Intake s request (s.submit setup request now) := by
  cases hc : s.current with
  | some p =>
    rw [submit_busy hc, abandon_eq]
    exact .turnedAway (by simp [accepted, emit]) rfl
      (by simp [completions, emit, List.filterMap_cons])
  | none =>
    cases hw : s.worker.isGone with
    | false =>
      rw [submit_queued hc hw]
      exact @Intake.queued _ _ _ (setup.job s request now) rfl (by simp [accepted, admitted])
        (by simp [promises, admitted, Setup.job]) (by simp [completions, admitted])
    | true =>
      rw [submit_refused hc hw]
      exact @Intake.refused _ _ _ (setup.job s request now) _ rfl
        (by simp [accepted, admitted]) rfl
        (by simp [completions, admitted, List.filterMap_cons]; rfl)

/-- Only a submission takes a ticket. -/
theorem perform_tickets {action : Action} (h : s.perform setup action = some t) :
    t.tickets = s.tickets + (requests [.own action]).length := by
  cases action with
  | submit request now =>
    obtain ⟨_, rfl⟩ := submit_of_perform h
    exact (submit_frame request now).1
  | cancel | drop =>
    simp only [perform] at h
    split at h <;> cases h
    simp only [drop, cancelCurrent]
    split
    · rw [abandon_eq]
      rfl
    · rfl
  | _ => exact (perform_frame h rfl rfl).1

/-- Only a submission takes a ticket. -/
theorem tickets_of_no_request {action : Action} (h : s.perform setup action = some t)
    (hr : (Move.own action).request? = none) : t.tickets = s.tickets := by
  rw [perform_tickets h]
  simp [requests, hr]

/-- Every answer, given or only promised, is one to the request of its ticket. -/
structure Returned (sent : List Request) (s : State) : Prop where
  issued : s.tickets = sent.length
  promised : ∀ ticket completion, (ticket, completion) ∈ s.promises →
    ticket ∈ s.accepted.map Job.ticket ∧
      ∃ request, sent[ticket]? = some request ∧ completion.Of request
  told : ∀ ticket completion, (ticket, completion) ∈ s.completions →
    ∃ request, sent[ticket]? = some request ∧
      (ticket ∈ s.accepted.map Job.ticket → completion.Of request) ∧
      (ticket ∉ s.accepted.map Job.ticket → completion = ⟨request, .skipped⟩)

/-- What a step of the worker tells was promised before, and so is what it leaves to be told. -/
theorem WorkerStep.promises {worker queue events} (h : WorkerStep s worker queue events) :
    events.filterMap Event.resolved? ++ { s with worker := worker, queue := queue }.promises ⊆
      s.promises := by
  cases h with
  | die alive =>
    rw [losses_resolved]
    simp [State.promises, Worker.promise?]
  | @deliver job outcome losing audited =>
    cases losing <;> simp [State.promises, audited, Worker.promise?]
  | skip idle next | call now idle next =>
    simp [State.promises, idle, next, Worker.promise?, List.filterMap_cons]
  | _ => simp [State.promises, Worker.promise?, List.filterMap_cons, *]

/-- Whoever hears something was promised it, and a promise changes only as the outcome does. -/
theorem Returned.kept (hs : Returned sent s) (ht : t.tickets = s.tickets)
    (ha : t.accepted = s.accepted)
    (hp : ∀ ticket completion, (ticket, completion) ∈ t.promises →
      ∃ old, (ticket, old) ∈ s.promises ∧ ∀ request, old.Of request → completion.Of request)
    (hc : t.completions ⊆ s.completions ++ s.promises) : Returned sent t := by
  refine ⟨ht ▸ hs.issued, ?_, ?_⟩
  · intro ticket completion hm
    obtain ⟨old, hold, hof⟩ := hp ticket completion hm
    obtain ⟨hacc, request, hr, h⟩ := hs.promised ticket old hold
    exact ⟨ha ▸ hacc, request, hr, hof request h⟩
  · intro ticket completion hm
    rw [ha]
    rcases List.mem_append.mp (hc hm) with hm | hm
    · exact hs.told ticket completion hm
    · obtain ⟨hacc, request, hr, h⟩ := hs.promised ticket completion hm
      exact ⟨request, hr, fun _ => h, fun hn => absurd hacc hn⟩

/-- The worker has the outcome of its job. -/
theorem Returned.settled {job : Job} {result losing completion} (hs : Returned sent s)
    (ended : s.worker = .ended job result losing) (ht : t.tickets = s.tickets)
    (ha : t.accepted = s.accepted) (hc : t.completions = s.completions)
    (hw : t.worker.promise? = some (job.ticket, completion)) (hq : t.queue = s.queue)
    (hof : ∀ request, job.request = { request with elapsed := none } → completion.Of request) :
    Returned sent t := by
  refine hs.kept ht ha ?_ (hc ▸ List.subset_append_left _ _)
  intro ticket told hm
  rw [promises, hw, hq] at hm
  rcases List.mem_append.mp hm with hm | hm
  · cases List.mem_singleton.mp hm
    exact ⟨⟨job.request, .skipped⟩, by simp [promises, ended, Worker.promise?], hof⟩
  · exact ⟨told, List.mem_append_right _ hm, fun _ h => h⟩

theorem Returned.step (hs : Returned sent s) (h : Effect setup s t)
    (ht : t.tickets = s.tickets) : Returned sent t := by
  cases h with
  | debounced | queued | refused => exact absurd ht (Nat.succ_ne_self _)
  | rested | stopped =>
    exact hs.kept rfl (by simp [accepted]) (fun _ completion hm => ⟨completion, hm, fun _ h => h⟩)
      (by simp [completions, List.filterMap_cons])
  | worked step =>
    have hsub := step.promises
    refine hs.kept rfl (by simp [accepted, step.filterMap_eq_nil]) ?_ ?_
    · intro ticket completion hm
      exact ⟨completion, hsub (List.mem_append_right _ hm), fun _ h => h⟩
    · intro x hx
      rw [completions, List.filterMap_append] at hx
      rcases List.mem_append.mp hx with hx | hx
      · exact List.mem_append_left _ hx
      · exact List.mem_append_right _ (hsub (List.mem_append_left _ hx))
  | discarded ended | failed ended | hushed ended =>
    exact hs.settled ended rfl (by simp [accepted]) (by simp [completions, List.filterMap_cons]) rfl
      rfl (fun _ h => h)
  | generated elapsed ended =>
    refine hs.settled ended rfl (by simp [accepted]) (by simp [completions, List.filterMap_cons]) rfl
      rfl ?_
    intro request h
    rw [Completion.Of, h]
    rfl

/-- One more ticket is given out, and whatever is new is an answer to its request. -/
theorem Returned.grown (hs : Returned sent s) (ht : t.tickets = s.tickets + 1)
    (ha : ∀ ticket < s.tickets,
      ticket ∈ t.accepted.map Job.ticket ↔ ticket ∈ s.accepted.map Job.ticket)
    (hp : ∀ ticket completion, (ticket, completion) ∈ t.promises →
      (ticket, completion) ∈ s.promises ∨
        ticket = s.tickets ∧ s.tickets ∈ t.accepted.map Job.ticket ∧ completion.Of request)
    (hc : ∀ ticket completion, (ticket, completion) ∈ t.completions →
      (ticket, completion) ∈ s.completions ∨
        ticket = s.tickets ∧ (s.tickets ∈ t.accepted.map Job.ticket → completion.Of request) ∧
          (s.tickets ∉ t.accepted.map Job.ticket → completion = ⟨request, .skipped⟩)) :
    Returned (sent ++ [request]) t := by
  have hold : ∀ {ticket : Nat} {old : Request}, sent[ticket]? = some old →
      ticket < s.tickets ∧ (sent ++ [request])[ticket]? = some old := by
    intro ticket old h
    have hlt := (List.getElem?_eq_some_iff.mp h).1
    exact ⟨hs.issued ▸ hlt, (List.getElem?_append_left hlt).trans h⟩
  have hnew : (sent ++ [request])[s.tickets]? = some request := by
    rw [hs.issued]
    exact List.getElem?_concat_length
  refine ⟨by simp [ht, hs.issued], ?_, ?_⟩
  · intro ticket completion hm
    rcases hp ticket completion hm with hm | ⟨rfl, hacc, hof⟩
    · obtain ⟨hacc, old, hr, hof⟩ := hs.promised ticket completion hm
      exact ⟨(ha ticket (hold hr).1).mpr hacc, old, (hold hr).2, hof⟩
    · exact ⟨hacc, request, hnew, hof⟩
  · intro ticket completion hm
    rcases hc ticket completion hm with hm | ⟨rfl, htold⟩
    · obtain ⟨old, hr, htold⟩ := hs.told ticket completion hm
      rw [ha ticket (hold hr).1]
      exact ⟨old, (hold hr).2, htold⟩
    · exact ⟨request, hnew, htold⟩

theorem Returned.intake (hn : Numbered s) (hs : Returned sent s) (ht : t.tickets = s.tickets + 1)
    (h : Intake s request t) : Returned (sent ++ [request]) t := by
  have hfree : s.tickets ∉ s.accepted.map Job.ticket := by
    intro hm
    obtain ⟨job, hj, he⟩ := List.mem_map.mp hm
    exact Nat.ne_of_lt (hn.issued job hj) he
  have hlast : ∀ {x y : Nat × Completion} {l : List (Nat × Completion)}, x ∈ l ++ [y] →
      x ∈ l ∨ x = y := fun h => by simpa using h
  cases h with
  | turnedAway accepted promised told =>
    refine hs.grown ht (fun _ _ => by rw [accepted]) ?_ ?_
    · exact fun _ _ hm => .inl (promised ▸ hm)
    · intro ticket completion hm
      rcases hlast (told ▸ hm) with hm | he
      · exact .inl hm
      · cases he
        exact .inr ⟨rfl, fun hacc => absurd (accepted ▸ hacc) hfree, fun _ => rfl⟩
  | @queued job own accepted promised told =>
    refine hs.grown ht ?_ ?_ ?_
    · intro ticket hlt
      simp [accepted, own, Nat.ne_of_lt hlt]
    · intro ticket completion hm
      rcases hlast (promised ▸ hm) with hm | he
      · exact .inl hm
      · cases he
        exact .inr ⟨rfl, by simp [accepted, own], rfl⟩
    · exact fun _ _ hm => .inl (told ▸ hm)
  | @refused job error own accepted promised told =>
    refine hs.grown ht ?_ ?_ ?_
    · intro ticket hlt
      simp [accepted, own, Nat.ne_of_lt hlt]
    · exact fun _ _ hm => .inl (promised ▸ hm)
    · intro ticket completion hm
      rcases hlast (told ▸ hm) with hm | he
      · exact .inl hm
      · cases he
        exact .inr ⟨rfl, fun _ => rfl, fun hno => absurd (by simp [accepted, own]) hno⟩

/-- Every caller gets its own request back. -/
theorem play_returned {moves : List Move} (h : (initial store).play setup moves = some s) :
    Returned (requests moves) s := by
  refine play_induction (motive := fun moves s => Returned (requests moves) s) ?_ ?_ h
  · exact ⟨rfl, fun _ _ hm => (nomatch hm), fun _ _ hm => (nomatch hm)⟩
  · intro before t m u ht hs hm
    have hsent : requests (before ++ [m]) = requests before ++ m.request?.toList := by
      cases hr : m.request? <;> simp [requests, hr]
    rw [hsent]
    cases m with
    | foreign change =>
      cases hm
      simp only [Move.request?, Option.toList_none, List.append_nil]
      exact ⟨hs.issued, hs.promised, hs.told⟩
    | own action =>
      have hp : t.perform setup action = some u := hm
      have htickets := perform_tickets hp
      cases action with
      | submit request now =>
        refine hs.intake (reachable_numbered ⟨before, ht⟩) htickets ?_
        obtain ⟨_, rfl⟩ := submit_of_perform hp
        exact submit_intake request now
      | _ =>
        simp only [Move.request?, Option.toList_none, List.append_nil]
        exact hs.step (perform_effect hp) htickets

/-- A request comes back with the time of its reply exactly if there is a reply, unless it stopped
another submission: then it comes back as it was made. So the rule holds of every submission that is
accepted, and of the others as long as their requests say nothing of an earlier reply. -/
theorem elapsed_follows_reply_iff {moves : List Move}
    (h : (initial store).play setup moves = some s) {ticket : Nat} {completion : Completion}
    (hm : (ticket, completion) ∈ s.completions) :
    ∃ request, (requests moves)[ticket]? = some request ∧
      ((∀ d, completion.request.elapsed = some d ↔
          ∃ reply, completion.outcome = .generated reply ∧ reply.elapsed = d) ↔
        ticket ∈ s.accepted.map Job.ticket ∨ request.elapsed = none) ∧
      (ticket ∉ s.accepted.map Job.ticket → completion = ⟨request, .skipped⟩) := by
  obtain ⟨request, hr, hof, haway⟩ := (play_returned h).told ticket completion hm
  refine ⟨request, hr, ?_, haway⟩
  by_cases hacc : ticket ∈ s.accepted.map Job.ticket
  · exact iff_of_true (hof hacc).elapsed_iff (.inl hacc)
  · rw [haway hacc]
    cases request.elapsed <;> simp [hacc]

/-- A request that tells of an earlier reply is made again, and its call fails. -/
theorem elapsed_follows_reply_iff_made_again :
    ∃ moves s completion, (initial .empty).play ⟨"p", compose⟩ moves = some s ∧
      (0, completion) ∈ s.completions ∧ completion.outcome = .failed (.providerUnavailable "no") ∧
      ∀ d, completion.request.elapsed ≠ some d := by
  let request : Request := ⟨⟨"k"⟩, "one", [], ⟨.mock, "m"⟩, 0, none, some ⟨7⟩⟩
  let moves : List Move := [.own (.submit request 0), .own (.take 1),
    .own (.finish (.error (.request "no"))), .own (.conclude 2),
    .own (.audit (some ⟨0, 0, 0⟩)), .own .deliver]
  have h : (initial .empty).play ⟨"p", compose⟩ moves = some _ := rfl
  let completion : Completion :=
    ⟨{ request with elapsed := none }, .failed (.providerUnavailable "no")⟩
  obtain ⟨_, _, hrule, _⟩ :=
    @elapsed_follows_reply_iff _ _ _ _ h 0 completion (by decide +kernel)
  refine ⟨moves, _, completion, h, by decide +kernel, rfl, ?_⟩
  intro d hd
  obtain ⟨reply, hg, _⟩ := (hrule.mpr (.inl (by decide +kernel)) d).mp hd
  cases hg

/-- A request that tells of an earlier reply stops another submission. Nothing comes of it, and yet
it tells of a reply. -/
theorem elapsed_without_reply :
    ∃ moves s completion d, (initial .empty).play ⟨"p", compose⟩ moves = some s ∧
      (1, completion) ∈ s.completions ∧ completion.outcome = .skipped ∧
      completion.request.elapsed = some d := by
  let request : Request := ⟨⟨"k"⟩, "a", [], ⟨.mock, "m"⟩, 0, none, none⟩
  let again : Request := { request with input := "b", elapsed := some ⟨7⟩ }
  let moves : List Move := [.own (.submit request 0), .own (.submit again 1)]
  have h : (initial .empty).play ⟨"p", compose⟩ moves = some _ := rfl
  exact ⟨moves, _, _, _, h, List.mem_singleton_self _, rfl, rfl⟩

end State

end Parley
