import Parley.Proofs.Acceptance

namespace Parley.State

variable {setup : Setup} {store : Store} {s t : State}

def Deserted (s : State) : Prop := s.worker.isGone = true → s.queue = []

theorem WorkerStep.deserted {worker queue events} (hs : Deserted s)
    (h : WorkerStep s worker queue events) : worker.isGone = true → queue = [] := by
  intro hg
  cases h with
  | outlive reply orphan => exact hs (by simp [orphan, Worker.isGone])
  | runOut idle empty => exact empty
  | die alive => rfl
  | deliver audited => split at hg <;> cases hg
  | _ => cases hg

theorem Deserted.step (hs : Deserted s) (h : Effect setup s t) : Deserted t := by
  cases h with
  | worked step => exact step.deserted hs
  | queued request now idle alive =>
    intro hg
    rw [alive] at hg
    cases hg
  | rested | stopped | debounced | refused => exact hs
  | discarded | generated | failed | hushed =>
    intro hg
    cases hg

theorem reachable_deserted (hr : Reachable setup store s) : Deserted s :=
  hr.induction (fun _ => rfl) (fun _ _ _ hs h => hs.step h) (fun _ _ hs => hs)

structure Answers (s : State) : Prop where
  order : s.accepted.map Job.ticket =
    s.answered.filter (fun ticket => ticket ∈ s.accepted.map Job.ticket) ++
      s.undelivered.map Job.ticket
  issued : ∀ ticket ∈ s.answered, ticket < s.tickets

/-- What the worker answers was next in turn. -/
theorem WorkerStep.answers {worker queue events} (h : WorkerStep s worker queue events) :
    s.undelivered.map Job.ticket = events.filterMap Event.answered? ++
      (worker.undelivered?.toList ++ queue).map Job.ticket := by
  cases h with
  | die alive =>
    simp [losses, undelivered, List.filterMap_map, Function.comp_def, Worker.undelivered?]
  | @deliver job outcome losing audited =>
    cases losing <;> simp [undelivered, audited, Worker.undelivered?]
  | skip idle next | call now idle next => simp [undelivered, idle, next, Worker.undelivered?]
  | runOut idle empty => simp [undelivered, idle, empty, Worker.undelivered?]
  | _ => simp [undelivered, Worker.undelivered?, *]

/-- Nobody is answered and nobody new waits. -/
theorem Answers.same (hs : Answers s) (ha : t.accepted = s.accepted) (hb : t.answered = s.answered)
    (hu : t.undelivered.map Job.ticket = s.undelivered.map Job.ticket)
    (ht : t.tickets = s.tickets) : Answers t :=
  ⟨by rw [ha, hb, hu]; exact hs.order, by rw [hb, ht]; exact hs.issued⟩

/-- Those who waited longest are answered. -/
theorem Answers.served (hn : Numbered s) (hs : Answers s) {tickets : List Nat}
    (ha : t.accepted = s.accepted) (hb : t.answered = s.answered ++ tickets)
    (hu : s.undelivered.map Job.ticket = tickets ++ t.undelivered.map Job.ticket)
    (ht : t.tickets = s.tickets) : Answers t := by
  have hin : ∀ ticket ∈ tickets, ticket ∈ s.accepted.map Job.ticket := by
    intro ticket hm
    rw [hs.order, hu]
    exact List.mem_append_right _ (List.mem_append_left _ hm)
  have hnew : tickets.filter (fun ticket => ticket ∈ s.accepted.map Job.ticket) = tickets :=
    List.filter_eq_self.mpr (fun ticket hm => decide_eq_true (hin ticket hm))
  refine ⟨?_, ?_⟩
  · rw [ha, hb, List.filter_append, hnew, List.append_assoc, ← hu]
    exact hs.order
  · intro ticket hm
    rw [hb] at hm
    rw [ht]
    rcases List.mem_append.mp hm with hm | hm
    · exact hs.issued ticket hm
    · obtain ⟨job, hj, rfl⟩ := List.mem_map.mp (hin ticket hm)
      exact hn.issued job hj

theorem Answers.issued_snoc (hs : Answers s) :
    ∀ ticket ∈ s.answered ++ [s.tickets], ticket < s.tickets + 1 := by
  intro ticket hm
  rcases List.mem_append.mp hm with hm | hm
  · exact Nat.lt_succ_of_lt (hs.issued ticket hm)
  · rw [List.mem_singleton.mp hm]
    exact Nat.lt_succ_self _

/-- A submission is answered at once and never accepted. -/
theorem Answers.turnedAway (hn : Numbered s) (hs : Answers s) (ha : t.accepted = s.accepted)
    (hb : t.answered = s.answered ++ [s.tickets])
    (hu : t.undelivered = s.undelivered) (ht : t.tickets = s.tickets + 1) : Answers t := by
  have hnew : [s.tickets].filter (fun ticket => ticket ∈ s.accepted.map Job.ticket) = [] := by
    apply List.filter_eq_nil_iff.mpr
    intro ticket hm hacc
    obtain ⟨job, hj, he⟩ := List.mem_map.mp (of_decide_eq_true hacc)
    have hlt := hn.issued job hj
    rw [he, List.mem_singleton.mp hm] at hlt
    exact Nat.lt_irrefl _ hlt
  refine ⟨?_, by rw [hb, ht]; exact hs.issued_snoc⟩
  rw [ha, hb, hu, List.filter_append, hnew, List.append_nil]
  exact hs.order

/-- A new ticket changes nothing about the answers so far. -/
theorem Answers.filter_new (hs : Answers s) :
    s.answered.filter (fun ticket => ticket ∈ s.accepted.map Job.ticket ++ [s.tickets]) =
      s.answered.filter (fun ticket => ticket ∈ s.accepted.map Job.ticket) := by
  apply List.filter_congr
  intro ticket hm
  have hne : ticket ≠ s.tickets := Nat.ne_of_lt (hs.issued ticket hm)
  simp [hne]

/-- A submission is accepted and waits. -/
theorem Answers.joined (hs : Answers s)
    (ha : t.accepted.map Job.ticket = s.accepted.map Job.ticket ++ [s.tickets])
    (hb : t.answered = s.answered)
    (hu : t.undelivered.map Job.ticket = s.undelivered.map Job.ticket ++ [s.tickets])
    (ht : t.tickets = s.tickets + 1) : Answers t := by
  refine ⟨?_, ?_⟩
  · rw [ha, hb, hu, hs.filter_new, ← List.append_assoc]
    exact congrArg (· ++ [s.tickets]) hs.order
  · intro ticket hm
    rw [hb] at hm
    rw [ht]
    exact Nat.lt_succ_of_lt (hs.issued ticket hm)

/-- A submission is accepted and answered while nobody waits. -/
theorem Answers.failedAtOnce (hs : Answers s)
    (ha : t.accepted.map Job.ticket = s.accepted.map Job.ticket ++ [s.tickets])
    (hb : t.answered = s.answered ++ [s.tickets])
    (hu : s.undelivered = []) (hu' : t.undelivered = [])
    (ht : t.tickets = s.tickets + 1) : Answers t := by
  refine ⟨?_, by rw [hb, ht]; exact hs.issued_snoc⟩
  have ho := hs.order
  rw [hu, List.map_nil, List.append_nil] at ho
  rw [ha, hb, hu', List.map_nil, List.append_nil, List.filter_append, hs.filter_new, ← ho]
  simp

theorem Answers.step (hn : Numbered s) (hd : Deserted s) (hs : Answers s)
    (h : Effect setup s t) : Answers t := by
  cases h with
  | worked step =>
    exact hs.served hn (by simp [accepted, step.filterMap_eq_nil]) (by simp [answered])
      step.answers rfl
  | debounced request busy =>
    exact hs.turnedAway hn (by simp [accepted]) (by simp [answered, List.filterMap_cons]) rfl rfl
  | queued request now idle alive =>
    exact hs.joined (by simp [accepted, Setup.job]) (by simp [answered])
      (by simp [undelivered, Setup.job]) rfl
  | refused request now idle dead =>
    obtain ⟨orphan, hw⟩ := Worker.eq_gone dead
    have hu : s.worker.undelivered? = none := by rw [hw]; rfl
    exact hs.failedAtOnce (by simp [accepted, Setup.job])
      (by simp [answered, List.filterMap_cons])
      (by simp [undelivered, hu, hd dead]) (by simp [undelivered, hu, hd dead]) rfl
  | discarded ended | generated _ ended | failed ended | hushed ended =>
    exact hs.same (by simp [accepted]) (by simp [answered])
      (by simp [undelivered, ended, Worker.undelivered?]) rfl
  | rested | stopped => exact hs.same (by simp [accepted]) (by simp [answered]) rfl rfl

theorem reachable_answers (hr : Reachable setup store s) : Answers s :=
  hr.induction ⟨rfl, by simp [initial, answered]⟩
    (fun _ _ hr hs h => hs.step (reachable_numbered hr) (reachable_deserted hr) h)
    (fun _ _ hs => ⟨hs.order, hs.issued⟩)

theorem unsettled_subset_undelivered {job : Job} (h : job ∈ s.unsettled) :
    job ∈ s.undelivered := by
  rcases List.mem_append.mp h with hw | hq
  · refine List.mem_append_left _ ?_
    cases hs : s.worker <;> simp_all [Worker.unsettled?, Worker.undelivered?]
  · exact List.mem_append_right _ hq

/-- Whoever waits was not answered. -/
theorem Answers.waiting {job : Job} (hn : Numbered s) (hs : Answers s)
    (hj : job ∈ s.undelivered) : job.ticket ∉ s.answered := by
  intro ha
  have hw : job.ticket ∈ s.undelivered.map Job.ticket := List.mem_map_of_mem hj
  have hm : job.ticket ∈ s.accepted.map Job.ticket := by
    rw [hs.order]
    exact List.mem_append_right _ hw
  have hnd := hn.tickets_nodup
  rw [hs.order] at hnd
  exact (List.nodup_append.mp hnd).2.2 _
    (List.mem_filter.mpr ⟨ha, decide_eq_true hm⟩) _ hw rfl

theorem completions_sublist_answered (s : State) :
    (s.completions.map Prod.fst).Sublist s.answered := by
  refine filterMap_sublist ?_ s.trace
  intro e _ he
  cases e with
  | resolved ticket completion =>
    cases he
    rfl
  | _ => cases he

/-- Accepted submissions come to their completions in the order of acceptance. -/
theorem Answers.completions_sublist (hs : Answers s) :
    ((s.completions.map Prod.fst).filter
      (fun ticket => ticket ∈ s.accepted.map Job.ticket)).Sublist (s.accepted.map Job.ticket) := by
  refine (s.completions_sublist_answered.filter _).trans ?_
  have ho := hs.order
  generalize s.accepted.map Job.ticket = tickets at ho ⊢
  conv => rhs; rw [ho]
  exact List.sublist_append_left _ _

end Parley.State
