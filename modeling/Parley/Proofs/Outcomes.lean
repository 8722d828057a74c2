import Parley.Proofs.Current

namespace Parley

def Worker.verdict? : Worker → Option (Job × Outcome)
  | settled job outcome _ | audited job outcome _ => some (job, outcome)
  | _ => none

namespace State

variable {setup : Setup} {store : Store} {s t : State} {job : Job}

/-- The result of a cancelled submission comes to nothing, and a call that lost to its deadline
fails its submission otherwise. -/
def Judged (s : State) : Prop :=
  ∀ id result outcome, (id, result, outcome) ∈ s.settlements →
    (id ∈ s.cancelled → outcome = .skipped) ∧
    (id ∉ s.cancelled → ∀ n, result = .error (.timeout n) → outcome = .failed (.timeout n))

theorem Judged.same (hs : Judged s) (hb : t.settlements = s.settlements)
    (hc : t.cancelled = s.cancelled) : Judged t := by
  intro id result outcome hm
  rw [hb] at hm
  rw [hc]
  exact hs id result outcome hm

/-- A submission is cancelled whose result is not settled. -/
theorem Judged.abandoned {p : Pending} (hs : Judged s) (hb : t.settlements = s.settlements)
    (hc : t.cancelled = p.id :: s.cancelled) (hw : p.id ∉ s.settledIds) : Judged t := by
  intro id result outcome hm
  rw [hb] at hm
  have hne : id ≠ p.id := fun he => hw (he ▸ List.mem_map_of_mem hm)
  have hiff : id ∈ t.cancelled ↔ id ∈ s.cancelled := by simp [hc, hne]
  rw [hiff]
  exact hs id result outcome hm

/-- One more result is settled. -/
theorem Judged.settled {id : Nat} {result : Except CallFailure String} {outcome : Outcome}
    (hs : Judged s) (hb : t.settlements = s.settlements ++ [(id, result, outcome)])
    (hc : t.cancelled = s.cancelled) (hskip : id ∈ s.cancelled → outcome = .skipped)
    (hfail : id ∉ s.cancelled → ∀ n, result = .error (.timeout n) →
      outcome = .failed (.timeout n)) : Judged t := by
  intro id' result' outcome' hm
  rw [hb] at hm
  rw [hc]
  rcases List.mem_append.mp hm with hm | hm
  · exact hs id' result' outcome' hm
  · cases List.mem_singleton.mp hm
    exact ⟨hskip, hfail⟩

theorem Judged.step (hslot : Slot setup s) (hs : Judged s) (h : Effect setup s t) : Judged t := by
  cases h with
  | rested => exact hs.same rfl rfl
  | worked step => exact hs.same (by simp [settlements, step.filterMap_eq_nil]) rfl
  | queued => exact hs.same (by simp [settlements]) rfl
  | stopped closed busy | debounced request busy =>
    exact hs.abandoned (by simp [settlements]) rfl (hslot.waits _ busy)
  | refused request now idle dead =>
    refine @Judged.settled s _ (s.lastId + 1) (.error noWorker)
      (.failed (classify noWorker request.model.provider)) hs
      (by simp [settlements, List.filterMap_cons]) rfl ?_ (fun _ _ he => by cases he)
    intro hc
    exact absurd (hslot.issued _ hc) (Nat.not_succ_le_self _)
  | @discarded job result losing ended stale =>
    refine @Judged.settled s _ job.id result .skipped hs (by simp [settlements]) rfl
      (fun _ => rfl) ?_
    exact fun hn => absurd (hslot.stale_cancelled (mem_unsettled ended) stale) hn
  | @generated job text losing p elapsed ended busy own =>
    refine @Judged.settled s _ job.id (.ok text)
      (.generated ⟨⟨.assistant, text⟩, elapsed⟩) hs (by simp [settlements, List.filterMap_cons]) rfl
      ?_ (fun _ _ he => by cases he)
    exact fun hc => absurd (own ▸ hc) (hslot.wanted p busy)
  | @failed job failure losing p ended busy own lost =>
    refine @Judged.settled s _ job.id (.error failure)
      (.failed (classify failure job.request.model.provider)) hs
      (by simp [settlements, List.filterMap_cons]) rfl ?_ ?_
    · exact fun hc => absurd (own ▸ hc) (hslot.wanted p busy)
    · intro _ n he
      cases he
      rfl
  | hushed ended busy own => exact absurd own (hslot.not_hushed busy ended)

theorem reachable_judged (hr : Reachable setup store s) : Judged s :=
  hr.induction (fun _ _ _ hm => by cases hm) (fun _ _ hr hs h => hs.step (reachable_slot hr) h)
    (fun _ _ hs => hs)

/-- What the worker holds for a caller, and what callers were told, is what was settled. -/
structure Informed (s : State) : Prop where
  held : ∀ job outcome, s.worker.verdict? = some (job, outcome) →
    ∃ other ∈ s.accepted, other.ticket = job.ticket ∧
      ∃ result, (other.id, result, outcome) ∈ s.settlements
  told : ∀ job ∈ s.accepted, ∀ completion, (job.ticket, completion) ∈ s.completions →
    (∃ result, (job.id, result, completion.outcome) ∈ s.settlements) ∨
      completion.outcome = .skipped ∧ job.id ∉ s.settledIds

/-- Nobody is told anything, and nobody new is accepted. -/
theorem Informed.same (hs : Informed s) (ha : t.accepted = s.accepted)
    (hb : t.settlements = s.settlements) (hc : t.completions = s.completions)
    (hw : t.worker.verdict? = s.worker.verdict?) : Informed t := by
  refine ⟨?_, ?_⟩
  · rw [hw, ha, hb]
    exact hs.held
  · rw [ha, hb, hc, settledIds, hb]
    exact hs.told

theorem answered_of_completion {ticket : Nat} {completion : Completion}
    (h : (ticket, completion) ∈ s.completions) : ticket ∈ s.answered :=
  s.completions_sublist_answered.subset (List.mem_map_of_mem h)

theorem WorkerStep.verdict {worker queue events} (h : WorkerStep s worker queue events) :
    worker.verdict? = none ∨ worker.verdict? = s.worker.verdict? := by
  cases h with
  | audit tokens settled => exact .inr (by rw [settled]; rfl)
  | deliver audited => exact .inl (by split <;> rfl)
  | _ => exact .inl rfl

/-- What a step of the worker tells: the outcome in its hands, or at its end that the queue is
skipped. -/
theorem WorkerStep.told {worker queue events ticket completion}
    (h : WorkerStep s worker queue events)
    (hm : (ticket, completion) ∈ events.filterMap Event.resolved?) :
    (∃ job outcome, s.worker.verdict? = some (job, outcome) ∧ job.ticket = ticket ∧
      completion.outcome = outcome) ∨
    completion.outcome = .skipped ∧ ∃ job ∈ s.queue, job.ticket = ticket := by
  cases h with
  | @deliver job outcome losing audited =>
    have he : (ticket, completion) = (job.ticket, ⟨job.request, outcome⟩) := by simpa using hm
    cases he
    exact .inl ⟨job, outcome, by rw [audited]; rfl, rfl, rfl⟩
  | die alive =>
    have hm : ∃ job ∈ s.queue, (job.ticket, (⟨job.request, .skipped⟩ : Completion)) =
        (ticket, completion) := by
      simpa [losses, List.filterMap_map, Function.comp_def] using hm
    obtain ⟨job, hj, he⟩ := hm
    cases he
    exact .inr ⟨rfl, job, hj, rfl⟩
  | _ => simp [List.filterMap_cons] at hm

theorem Informed.worked {worker queue events} (hn : Numbered s) (hb : Settlements s)
    (hs : Informed s) (h : WorkerStep s worker queue events) :
    Informed { s with worker := worker, queue := queue, trace := s.trace ++ events } := by
  have ha : (s.trace ++ events).filterMap Event.accepted? = s.accepted := by
    simp [accepted, h.filterMap_eq_nil]
  have hset : (s.trace ++ events).filterMap Event.settled? = s.settlements := by
    simp [settlements, h.filterMap_eq_nil]
  refine ⟨?_, ?_⟩
  · intro job outcome hw
    simp only [accepted, settlements, ha, hset]
    rcases h.verdict with hnone | hsame
    · rw [hnone] at hw
      cases hw
    · exact hs.held job outcome (hsame ▸ hw)
  · simp only [accepted, settlements, settledIds, completions, ha, hset]
    intro job hj completion hm
    rw [List.filterMap_append] at hm
    rcases List.mem_append.mp hm with hm | hm
    · exact hs.told job hj completion hm
    · rcases h.told hm with ⟨holder, outcome, hv, ht, ho⟩ | ⟨ho, waiting, hq, ht⟩
      · obtain ⟨other, hother, hot, result, hr⟩ := hs.held holder outcome hv
        have he : job = other :=
          List.inj_on_of_nodup_map hn.tickets_nodup hj hother (by rw [hot, ht])
        exact .inl ⟨result, by rw [he, ho]; exact hr⟩
      · have hu : waiting ∈ s.unsettled := List.mem_append_right _ hq
        have he : job = waiting :=
          List.inj_on_of_nodup_map hn.tickets_nodup hj (hb.known waiting hu) ht.symm
        refine .inr ⟨ho, ?_⟩
        intro hid
        exact (List.nodup_append.mp (hb.nodup hn)).2.2 _ hid _
          (List.mem_map_of_mem hu) (by rw [he])

/-- The job in the worker's hands is settled. -/
theorem Informed.settled {result losing} {holder : Job} {outcome : Outcome}
    {found : Except CallFailure String} (hn : Numbered s) (hb : Settlements s) (hans : Answers s)
    (hs : Informed s) (ended : s.worker = .ended job result losing)
    (ha : t.accepted = s.accepted) (hc : t.completions = s.completions)
    (hset : t.settlements = s.settlements ++ [(job.id, found, outcome)])
    (hw : t.worker.verdict? = some (holder, outcome)) (ht : holder.ticket = job.ticket) :
    Informed t := by
  have hu := mem_unsettled ended
  refine ⟨?_, ?_⟩
  · intro j o hv
    cases hw.symm.trans hv
    exact ⟨job, ha ▸ hb.known job hu, ht.symm, found, by simp [hset]⟩
  · intro other ho completion hm
    rw [ha] at ho
    rw [hc] at hm
    rw [settledIds, hset, List.map_append]
    rcases hs.told other ho completion hm with ⟨r, hr⟩ | ⟨hskip, hnew⟩
    · exact .inl ⟨r, List.mem_append_left _ hr⟩
    · refine .inr ⟨hskip, ?_⟩
      intro hid
      rcases List.mem_append.mp hid with hid | hid
      · exact hnew hid
      · -- The job waits for its answer, so it is not the one that was answered.
        have hsame : other.id = job.id := List.mem_singleton.mp hid
        have he : other = job := List.inj_on_of_nodup_map hn.ids_nodup ho (hb.known job hu) hsame
        exact hans.waiting hn (unsettled_subset_undelivered hu) (he ▸ answered_of_completion hm)

/-- A submission is turned away. -/
theorem Informed.turnedAway (hn : Numbered s) (hs : Informed s) {completion : Completion}
    (ha : t.accepted = s.accepted) (hset : t.settlements = s.settlements)
    (hc : t.completions = s.completions ++ [(s.tickets, completion)])
    (hw : t.worker = s.worker) : Informed t := by
  refine ⟨by rw [hw, ha, hset]; exact hs.held, ?_⟩
  intro job hj told hm
  rw [ha] at hj
  rw [hc] at hm
  rw [settledIds, hset]
  rcases List.mem_append.mp hm with hm | hm
  · exact hs.told job hj told hm
  · obtain ⟨ht, _⟩ := Prod.mk.inj (List.mem_singleton.mp hm)
    exact absurd ht (Nat.ne_of_lt (hn.issued job hj))

theorem completion_issued (hs : Answers s) {ticket : Nat} {completion : Completion}
    (h : (ticket, completion) ∈ s.completions) : ticket < s.tickets :=
  hs.issued ticket (answered_of_completion h)

/-- A submission is accepted. -/
theorem Informed.joined (hans : Answers s) (hs : Informed s) (htick : job.ticket = s.tickets)
    (ha : t.accepted = s.accepted ++ [job]) (hset : t.settlements = s.settlements)
    (hc : t.completions = s.completions) (hw : t.worker = s.worker) : Informed t := by
  refine ⟨?_, ?_⟩
  · intro j o hv
    rw [hw] at hv
    obtain ⟨other, hother, hot, hr⟩ := hs.held j o hv
    exact ⟨other, ha ▸ List.mem_append_left _ hother, hot, hset ▸ hr⟩
  · intro other ho completion hm
    rw [ha] at ho
    rw [hc] at hm
    rw [settledIds, hset]
    rcases List.mem_append.mp ho with ho | ho
    · exact hs.told other ho completion hm
    · rw [List.mem_singleton.mp ho, htick] at hm
      exact absurd (completion_issued hans hm) (Nat.lt_irrefl _)

/-- A submission that nobody was told of is settled and answered at once. -/
theorem Informed.failedAtOnce {found : Except CallFailure String} {completion : Completion}
    (hn : Numbered t) (hs : Informed s) (hj : job ∈ s.accepted)
    (hnew : ∀ told, (job.ticket, told) ∉ s.completions) (ha : t.accepted = s.accepted)
    (hset : t.settlements = s.settlements ++ [(job.id, found, completion.outcome)])
    (hc : t.completions = s.completions ++ [(job.ticket, completion)])
    (hw : t.worker = s.worker) : Informed t := by
  refine ⟨?_, ?_⟩
  · intro j o hv
    rw [hw] at hv
    obtain ⟨other, hother, hot, result, hr⟩ := hs.held j o hv
    exact ⟨other, ha ▸ hother, hot, result, hset ▸ List.mem_append_left _ hr⟩
  · intro other ho told hm
    rw [hc] at hm
    rw [settledIds, hset, List.map_append]
    rcases List.mem_append.mp hm with hm | hm
    · rcases hs.told other (ha ▸ ho) told hm with ⟨r, hr⟩ | ⟨hskip, hout⟩
      · exact .inl ⟨r, List.mem_append_left _ hr⟩
      · refine .inr ⟨hskip, ?_⟩
        intro hid
        rcases List.mem_append.mp hid with hid | hid
        · exact hout hid
        · have he : other = job :=
            List.inj_on_of_nodup_map hn.ids_nodup ho (ha ▸ hj) (List.mem_singleton.mp hid)
          exact hnew told (he ▸ hm)
    · obtain ⟨ht, rfl⟩ := Prod.mk.inj (List.mem_singleton.mp hm)
      have he : other = job := List.inj_on_of_nodup_map hn.tickets_nodup ho (ha ▸ hj) ht
      exact .inl ⟨found, by simp [he]⟩

theorem Informed.step (hr : Reachable setup store s) (hs : Informed s) (h : Effect setup s t) :
    Informed t := by
  have hn := reachable_numbered hr
  have hb := reachable_settlements hr
  have hans := reachable_answers hr
  have hnt : Numbered t := hn.step h
  cases h with
  | rested | stopped =>
    exact hs.same (by simp [accepted]) (by simp [settlements]) (by simp [completions]) rfl
  | worked step => exact hs.worked hn hb step
  | debounced request busy =>
    exact hs.turnedAway hn (by simp [accepted]) (by simp [settlements])
      (by simp [completions, List.filterMap_cons]; rfl) rfl
  | queued request now idle alive =>
    exact hs.joined hans rfl (by simp [accepted]; rfl) (by simp [settlements])
      (by simp [completions]) rfl
  | refused request now idle dead =>
    have hjoined : Informed (s.admitted setup request now) :=
      hs.joined hans rfl (by simp [accepted, admitted]; rfl) (by simp [settlements, admitted])
        (by simp [completions, admitted]) rfl
    have hnew : ∀ told, (s.tickets, told) ∉ (s.admitted setup request now).completions := by
      intro told hm
      have hm : (s.tickets, told) ∈ s.completions := by simpa [completions, admitted] using hm
      exact absurd (completion_issued hans hm) (Nat.lt_irrefl _)
    exact @failedAtOnce (s.admitted setup request now) _ (setup.job s request now)
      (.error noWorker) ⟨{ request with elapsed := none },
        .failed (classify noWorker request.model.provider)⟩ hnt hjoined
      (by simp [accepted, admitted]) hnew (by simp [accepted, admitted])
      (by simp [settlements, admitted, List.filterMap_cons, Setup.job])
      (by simp [completions, admitted, List.filterMap_cons, Setup.job]) rfl
  | discarded ended =>
    exact hs.settled hn hb hans ended (by simp [accepted]) (by simp [completions])
      (by simp [settlements]; rfl) rfl rfl
  | generated _ ended | failed ended | hushed ended =>
    exact hs.settled hn hb hans ended (by simp [accepted])
      (by simp [completions, List.filterMap_cons])
      (by simp [settlements, List.filterMap_cons]; rfl) rfl rfl

theorem reachable_informed (hr : Reachable setup store s) : Informed s :=
  hr.induction ⟨fun _ _ hv => (nomatch hv), fun _ hj => (nomatch hj)⟩
    (fun _ _ hr hs h => hs.step hr h) (fun _ _ hs => ⟨hs.held, hs.told⟩)

/-- The caller of a cancelled submission is told that nothing came of it. -/
theorem told_skipped {completion : Completion} (hr : Reachable setup store s)
    (hj : job ∈ s.accepted) (hc : job.id ∈ s.cancelled)
    (hm : (job.ticket, completion) ∈ s.completions) : completion.outcome = .skipped := by
  rcases (reachable_informed hr).told job hj completion hm with ⟨result, hset⟩ | ⟨hskip, _⟩
  · exact (reachable_judged hr _ _ _ hset).1 hc
  · exact hskip

/-- The caller of a submission whose result is settled is told what came of it. -/
theorem told_settled {completion : Completion} {result : Except CallFailure String}
    {outcome : Outcome} (hr : Reachable setup store s) (hj : job ∈ s.accepted)
    (hset : (job.id, result, outcome) ∈ s.settlements)
    (hm : (job.ticket, completion) ∈ s.completions) : completion.outcome = outcome := by
  rcases (reachable_informed hr).told job hj completion hm with ⟨result', hr'⟩ | ⟨_, hnew⟩
  · have hids := (reachable_settlements hr).settledIds_nodup (reachable_numbered hr)
    have he := List.inj_on_of_nodup_map hids hr' hset rfl
    exact (Prod.mk.inj (Prod.mk.inj he).2).2
  · exact absurd (List.mem_map_of_mem hset) hnew

/-- The caller of a submission whose call lost to its deadline is told so, unless the submission was
cancelled. -/
theorem told_timeout {completion : Completion} {n : Nat} {outcome : Outcome}
    (hr : Reachable setup store s) (hj : job ∈ s.accepted) (hc : job.id ∉ s.cancelled)
    (hset : (job.id, .error (.timeout n), outcome) ∈ s.settlements)
    (hm : (job.ticket, completion) ∈ s.completions) :
    completion.outcome = .failed (.timeout n) :=
  (told_settled hr hj hset hm).trans ((reachable_judged hr _ _ _ hset).2 hc n rfl)

end State

end Parley
