import Parley.Proofs.Answers

namespace Parley.State

variable {setup : Setup} {store : Store} {s t : State}

/-- The calls that began are those that are over and the one that the worker has to do with. -/
structure Calls (s : State) : Prop where
  order : (s.called ++ s.queue.map Job.id).Sublist (s.accepted.map Job.id)
  turns : s.called = s.returned ++ s.worker.executing?.toList.map Job.id

theorem WorkerStep.calls_order {worker queue events} (h : WorkerStep s worker queue events) :
    (events.filterMap Event.called? ++ queue.map Job.id).Sublist (s.queue.map Job.id) := by
  cases h with
  | skip idle next | call now idle next => simp [next]
  | die alive =>
    rw [filterMap_losses (fun _ => rfl) (fun _ _ => rfl)]
    exact List.nil_sublist _
  | _ => simp [List.filterMap_cons]

/-- A call begins only when none goes on, and the one that goes on is the one that ends. -/
theorem WorkerStep.calls_turns {worker queue events} (h : WorkerStep s worker queue events) :
    s.worker.executing?.toList.map Job.id ++ events.filterMap Event.called? =
      events.filterMap Event.returned? ++ worker.executing?.toList.map Job.id := by
  cases h with
  | @deliver job outcome losing audited =>
    cases losing <;> simp [audited, Worker.executing?, List.filterMap_cons]
  | @audit job outcome losing tokens settled =>
    cases losing <;> simp [settled, Worker.executing?, List.filterMap_cons]
  | die alive =>
    rw [filterMap_losses (fun _ => rfl) (fun _ _ => rfl),
      filterMap_losses (fun _ => rfl) (fun _ _ => rfl), List.append_nil]
    rfl
  | _ => simp [Worker.executing?, List.filterMap_cons, *]

/-- No call begins or ends, and nobody joins or leaves the queue. -/
theorem Calls.same (hs : Calls s) (ha : t.accepted = s.accepted) (hc : t.called = s.called)
    (hr : t.returned = s.returned) (hq : t.queue = s.queue)
    (hw : t.worker.executing?.toList.map Job.id = s.worker.executing?.toList.map Job.id) :
    Calls t :=
  ⟨by rw [ha, hc, hq]; exact hs.order, by rw [hc, hr, hw]; exact hs.turns⟩

theorem Calls.worked {worker queue events} (hs : Calls s) (h : WorkerStep s worker queue events) :
    Calls { s with worker := worker, queue := queue, trace := s.trace ++ events } := by
  refine ⟨?_, ?_⟩
  · simp only [called, accepted, List.filterMap_append, h.filterMap_eq_nil workless_accepted,
      List.append_nil, List.append_assoc]
    exact ((List.Sublist.refl _).append h.calls_order).trans hs.order
  · simp only [called, returned, List.filterMap_append, List.append_assoc, ← h.calls_turns]
    rw [← List.append_assoc]
    exact congrArg (· ++ events.filterMap Event.called?) hs.turns

theorem Calls.step (hs : Calls s) (h : Effect setup s t) : Calls t := by
  cases h with
  | worked step => exact hs.worked step
  | queued request now idle alive =>
    refine ⟨?_, by simpa [called, returned] using hs.turns⟩
    simpa [called, accepted, Setup.job] using hs.order.append (List.Sublist.refl [s.lastId + 1])
  | refused request now idle dead =>
    refine ⟨?_, by simpa [called, returned, List.filterMap_cons] using hs.turns⟩
    have ho := hs.order.trans (List.sublist_append_left _ [s.lastId + 1])
    simpa [called, accepted, Setup.job, List.filterMap_cons] using ho
  | @discarded job result losing ended | @generated job text losing p elapsed ended
  | @failed job failure losing p ended | @hushed job losing p ended =>
    exact hs.same (by simp [accepted]) (by simp [called]) (by simp [returned]) rfl
      (by cases losing <;> simp [ended, Worker.executing?])
  | rested | stopped | debounced =>
    exact hs.same (by simp [accepted]) (by simp [called]) (by simp [returned]) rfl rfl

theorem reachable_calls (hr : Reachable setup store s) : Calls s :=
  hr.induction ⟨.refl _, rfl⟩ (fun _ _ _ hs h => hs.step h) (fun _ _ hs => ⟨hs.order, hs.turns⟩)

theorem Calls.nodup (hn : Numbered s) (hs : Calls s) : (s.called ++ s.queue.map Job.id).Nodup :=
  hn.ids_nodup.sublist hs.order

/-- The calls that go on are the worker's own, and there is one at most. -/
theorem Calls.executing_le_one (hs : Calls s) : s.executing.length ≤ 1 := by
  have hr : s.returned.filter (fun id => id ∉ s.returned) = [] :=
    List.filter_eq_nil_iff.mpr (by simp)
  have he : s.executing =
      (s.worker.executing?.toList.map Job.id).filter (fun id => id ∉ s.returned) := by
    rw [executing, hs.turns, List.filter_append, hr, List.nil_append]
  rw [he]
  refine Nat.le_trans (List.length_filter_le _ _) ?_
  cases s.worker.executing? <;> simp

theorem WorkerStep.wanted {worker queue events id} (h : WorkerStep s worker queue events)
    (hid : id ∈ events.filterMap Event.called?) : id ∉ s.cancelled := by
  cases h with
  | @call job rest now idle next wanted =>
    have he : id = job.id := by simpa using hid
    exact he ▸ wanted
  | die alive => simp [filterMap_losses (f := Event.called?) (fun _ => rfl) (fun _ _ => rfl)] at hid
  | _ => simp [List.filterMap_cons] at hid

/-- A submission that is cancelled and was not called stays so. -/
theorem Effect.never_called {id : Nat} (hs : id ∈ s.cancelled ∧ id ∉ s.called)
    (h : Effect setup s t) : id ∈ t.cancelled ∧ id ∉ t.called := by
  obtain ⟨hc, hn⟩ := hs
  cases h with
  | worked step =>
    refine ⟨hc, ?_⟩
    intro hm
    rw [called, List.filterMap_append] at hm
    rcases List.mem_append.mp hm with hm | hm
    · exact hn hm
    · exact step.wanted hm hc
  | stopped | debounced =>
    exact ⟨List.mem_cons_of_mem _ hc, by simpa [called] using hn⟩
  | rested | queued | refused | discarded | generated | failed | hushed =>
    exact ⟨hc, by simpa [called] using hn⟩

/-- One call at a time, in the order of acceptance, none twice and none for a submission that was
cancelled in the queue; and answers in the order of acceptance. -/
theorem single_flight {moves : List Move} (h : (initial store).play setup moves = some s) :
    s.executing.length ≤ 1 ∧
    s.called.Sublist (s.accepted.map Job.id) ∧ s.called.Nodup ∧
    (∀ before after t, moves = before ++ after → (initial store).play setup before = some t →
      ∀ job ∈ t.queue, job.id ∈ t.cancelled → job.id ∉ s.called) ∧
    ((s.completions.map Prod.fst).filter
      (fun ticket => ticket ∈ s.accepted.map Job.ticket)).Sublist (s.accepted.map Job.ticket) := by
  have hr : Reachable setup store s := ⟨moves, h⟩
  have hs := reachable_calls hr
  have hc : s.called.Sublist (s.accepted.map Job.id) :=
    (List.sublist_append_left _ _).trans hs.order
  refine ⟨hs.executing_le_one, hc, (reachable_numbered hr).ids_nodup.sublist hc, ?_,
    (reachable_answers hr).completions_sublist⟩
  intro before after t hm ht job hq hcan
  have htr : Reachable setup store t := ⟨before, ht⟩
  have hnew : job.id ∉ t.called := by
    intro hcalled
    have hnodup := (reachable_calls htr).nodup (reachable_numbered htr)
    exact (List.nodup_append.mp hnodup).2.2 _ hcalled _ (List.mem_map_of_mem hq) rfl
  rw [hm, play_append, ht] at h
  have hlast := play_preserves (P := fun u => job.id ∈ u.cancelled ∧ job.id ∉ u.called)
    ⟨hcan, hnew⟩ (fun _ _ hu he => he.never_called hu) (fun _ _ hu => hu) h
  exact hlast.2

/-- A submission is cancelled in the queue; the worker passes over it and calls the next. -/
theorem single_flight_passed_over :
    ∃ moves s, (initial .empty).play ⟨"p", compose⟩ moves = some s ∧
      s.executing = [2] ∧ s.executing.length ≤ 1 ∧ 1 ∉ s.called := by
  let request : Request := ⟨⟨"k"⟩, "one", [], ⟨.mock, "m"⟩, 0, none, none⟩
  let before : List Move := [.own (.submit request 0), .own .cancel]
  let after : List Move := [.own (.submit request 1), .own (.take 2), .own (.conclude 3),
    .own (.audit (some ⟨0, 0, 0⟩)), .own .deliver, .own (.take 4)]
  have ht : (initial .empty).play ⟨"p", compose⟩ before = some _ := rfl
  have h : (initial .empty).play ⟨"p", compose⟩ (before ++ after) = some _ := rfl
  obtain ⟨hone, _, _, hskip, _⟩ := single_flight h
  exact ⟨_, _, h, by decide +kernel, hone,
    hskip before after _ rfl ht _ (List.mem_singleton_self _) (by decide)⟩

end Parley.State
