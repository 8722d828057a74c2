import Parley.Proofs.Answers

namespace Parley.State

variable {setup : Setup} {store : Store} {s t : State} {job : Job}

structure Settlements (s : State) : Prop where
  order : (s.settledIds ++ s.unsettled.map Job.id).Sublist (s.accepted.map Job.id)
  known : ∀ job ∈ s.unsettled, job ∈ s.accepted

theorem unsettled_eq {result losing} (ended : s.worker = .ended job result losing) :
    s.unsettled = job :: s.queue := by
  rw [unsettled, ended]
  rfl

theorem mem_unsettled {result losing} (ended : s.worker = .ended job result losing) :
    job ∈ s.unsettled := by
  rw [unsettled_eq ended]
  exact List.mem_cons_self

/-- The worker passes unsettled jobs on, or loses them all. -/
theorem WorkerStep.unsettled {worker queue events} (h : WorkerStep s worker queue events) :
    worker.unsettled?.toList ++ queue = s.unsettled ∨
      s.worker.isGone = false ∧ worker.isGone = true ∧
        worker.unsettled?.toList ++ queue = [] := by
  cases h with
  | die alive => exact .inr ⟨alive, rfl, rfl⟩
  | runOut idle empty => exact .inl (by simp [State.unsettled, idle, empty, Worker.unsettled?])
  | skip idle next | call now idle next =>
    exact .inl (by simp [State.unsettled, idle, next, Worker.unsettled?])
  | @deliver job outcome losing audited =>
    exact .inl (by cases losing <;> simp [State.unsettled, audited, Worker.unsettled?])
  | _ => exact .inl (by simp [State.unsettled, Worker.unsettled?, *])

/-- Nothing is settled; unsettled jobs may be lost. -/
theorem Settlements.same (hs : Settlements s) (ha : t.accepted = s.accepted)
    (hb : t.settledIds = s.settledIds) (hu : t.unsettled.Sublist s.unsettled) :
    Settlements t := by
  refine ⟨?_, fun job hj => ha ▸ hs.known job (hu.subset hj)⟩
  rw [hb, ha]
  exact ((List.Sublist.refl _).append (hu.map Job.id)).trans hs.order

/-- The job in the worker's hands is settled. -/
theorem Settlements.settled {result losing} (hs : Settlements s)
    (ended : s.worker = .ended job result losing) (ha : t.accepted = s.accepted)
    (hb : t.settledIds = s.settledIds ++ [job.id]) (hu : t.unsettled = s.queue) :
    Settlements t := by
  have hus : s.unsettled = job :: t.unsettled := hu ▸ unsettled_eq ended
  refine ⟨?_, fun job hj => ha ▸ hs.known job (hus ▸ List.mem_cons_of_mem _ hj)⟩
  have ho := hs.order
  rw [hus] at ho
  simpa only [hb, ha, List.map_cons, List.append_assoc, List.cons_append, List.nil_append] using ho

theorem Settlements.worked {worker queue events} (hs : Settlements s)
    (h : WorkerStep s worker queue events) :
    Settlements { s with worker := worker, queue := queue, trace := s.trace ++ events } := by
  refine hs.same (by simp [accepted, h.filterMap_eq_nil])
    (by simp [settledIds, settlements, h.filterMap_eq_nil]) ?_
  rcases h.unsettled with hu | ⟨_, _, hnone⟩
  · exact hu ▸ List.Sublist.refl _
  · rw [unsettled, hnone]
    exact List.nil_sublist _

theorem Settlements.step (hd : Deserted s) (hs : Settlements s) (h : Effect setup s t) :
    Settlements t := by
  cases h with
  | worked step => exact hs.worked step
  | queued request now idle alive =>
    refine ⟨?_, ?_⟩
    · have ho := hs.order.append (List.Sublist.refl [s.lastId + 1])
      simpa [settledIds, settlements, unsettled, accepted, Setup.job] using ho
    · intro job hj
      simp only [accepted, List.filterMap_append, Setup.filterMap_acceptance, storeless_accepted]
      simp only [unsettled, ← List.append_assoc] at hj
      rcases List.mem_append.mp hj with hj | hj
      · exact List.mem_append_left _ (hs.known job hj)
      · exact List.mem_append_right _ (by simpa using hj)
  | refused request now idle dead =>
    obtain ⟨orphan, hw⟩ := Worker.eq_gone dead
    have hu : s.worker.unsettled? = none := by rw [hw]; rfl
    have hnone : s.unsettled = [] := by simp [unsettled, hu, hd dead]
    refine ⟨?_, by simp [unsettled, hu, hd dead]⟩
    have ho := hs.order.append (List.Sublist.refl [s.lastId + 1])
    simpa [settledIds, settlements, hnone, unsettled, hu, hd dead, accepted, Setup.job,
      List.filterMap_cons] using ho
  | discarded ended | generated _ ended | failed ended | hushed ended =>
    exact hs.settled ended (by simp [accepted])
      (by simp [settledIds, settlements, List.filterMap_cons]) rfl
  | rested | stopped | debounced =>
    exact hs.same (by simp [accepted]) (by simp [settledIds, settlements]) (.refl _)

theorem reachable_settlements (hr : Reachable setup store s) : Settlements s :=
  hr.induction ⟨.refl _, by simp [initial, unsettled, Worker.unsettled?]⟩
    (fun _ _ hr hs h => hs.step (reachable_deserted hr) h) (fun _ _ hs => ⟨hs.order, hs.known⟩)

theorem Settlements.nodup (hn : Numbered s) (hs : Settlements s) :
    (s.settledIds ++ s.unsettled.map Job.id).Nodup :=
  hn.ids_nodup.sublist hs.order

theorem Settlements.settledIds_nodup (hn : Numbered s) (hb : Settlements s) : s.settledIds.Nodup :=
  (List.nodup_append.mp (hb.nodup hn)).1

theorem Settlements.ascending (hn : Numbered s) (hb : Settlements s) :
    (s.unsettled.map Job.id).Pairwise (· < ·) :=
  hn.ids_ascending.sublist ((List.sublist_append_right _ _).trans hb.order)

theorem Settlements.unsettled_nodup (hn : Numbered s) (hb : Settlements s) :
    (s.unsettled.map Job.id).Nodup :=
  (hb.ascending hn).imp Nat.ne_of_lt

theorem Settlements.settled_le {id : Nat} (hn : Numbered s) (hs : Settlements s)
    (h : id ∈ s.settledIds) : id ≤ s.lastId := by
  obtain ⟨job, hj, rfl⟩ := List.mem_map.mp (hs.order.subset (List.mem_append_left _ h))
  exact hn.id_le hj

end Parley.State
