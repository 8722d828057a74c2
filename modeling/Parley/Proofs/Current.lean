import Mathlib.Data.List.Nodup
import Parley.Proofs.Settlements

namespace Parley.State

variable {setup : Setup} {store : Store} {s t : State} {p : Pending}

structure Slot (setup : Setup) (s : State) : Prop where
  flag : s.running = s.current.isSome
  newest : ∀ p, s.current = some p →
    ∃ job, s.accepted.getLast? = some job ∧ p = setup.pending job
  wanted : ∀ p, s.current = some p → p.id ∉ s.cancelled
  waits : ∀ p, s.current = some p → p.id ∉ s.settledIds
  issued : ∀ id ∈ s.cancelled, id ≤ s.lastId
  superseded : ∀ job ∈ s.unsettled, job.id ∉ s.cancelled → ∃ p, s.current = some p ∧ p.id = job.id
  interrupted : ∀ job losing, s.worker = .ended job (.error .cancelled) losing →
    job.id ∈ s.cancelled

theorem Slot.current_id (hn : Numbered s) (hs : Slot setup s) (hc : s.current = some p) :
    p.id = s.lastId := by
  obtain ⟨job, hj, rfl⟩ := hs.newest p hc
  exact hn.last_id hj

/-- The submission with the id of the current one is the current one, and was accepted last. -/
theorem Slot.own {job : Job} (hn : Numbered s) (hs : Slot setup s) (hc : s.current = some p)
    (hj : job ∈ s.accepted) (hid : p.id = job.id) :
    s.accepted.getLast? = some job ∧ p = setup.pending job := by
  obtain ⟨newest, hlast, rfl⟩ := hs.newest p hc
  obtain rfl := List.inj_on_of_nodup_map hn.ids_nodup hj (List.mem_of_getLast? hlast) hid.symm
  exact ⟨hlast, rfl⟩

/-- An unsettled submission that is not current was cancelled. -/
theorem Slot.stale_cancelled {job : Job} (hs : Slot setup s) (hj : job ∈ s.unsettled)
    (stale : ∀ p, s.current = some p → p.id ≠ job.id) : job.id ∈ s.cancelled := by
  by_contra hn
  obtain ⟨p, hc, hid⟩ := hs.superseded job hj hn
  exact stale p hc hid

/-- A cancelled call is never current when its result is settled. -/
theorem Slot.not_hushed {job losing} (hs : Slot setup s) (hc : s.current = some p)
    (ended : s.worker = .ended job (.error .cancelled) losing) : p.id ≠ job.id := by
  intro he
  exact hs.wanted p hc (he ▸ hs.interrupted job losing ended)

/-- Nothing is current any more, and every unsettled submission was cancelled. -/
theorem Slot.vacant (hc : t.current = none) (hf : t.running = false)
    (hi : ∀ id ∈ t.cancelled, id ≤ t.lastId)
    (hu : ∀ job ∈ t.unsettled, job.id ∈ t.cancelled)
    (hw : ∀ job losing, t.worker = .ended job (.error .cancelled) losing → job.id ∈ t.cancelled) :
    Slot setup t where
  flag := by rw [hc, hf]; rfl
  newest p h := by rw [hc] at h; cases h
  wanted p h := by rw [hc] at h; cases h
  waits p h := by rw [hc] at h; cases h
  issued := hi
  superseded job hj hn := absurd (hu job hj) hn
  interrupted := hw

/-- The current submission is given up. -/
theorem Slot.abandoned (hn : Numbered s) (hs : Slot setup s) (busy : s.current = some p)
    (hc : t.current = none) (hf : t.running = false) (hcan : t.cancelled = p.id :: s.cancelled)
    (hl : t.lastId = s.lastId) (hw : t.worker = s.worker) (hq : t.queue = s.queue) :
    Slot setup t := by
  refine Slot.vacant hc hf ?_ ?_ ?_
  · intro id hm
    rw [hcan] at hm
    rw [hl]
    rcases List.mem_cons.mp hm with rfl | hm
    · exact Nat.le_of_eq (hs.current_id hn busy)
    · exact hs.issued id hm
  · intro job hj
    rw [unsettled, hw, hq] at hj
    rw [hcan]
    by_cases own : p.id = job.id
    · exact own ▸ List.mem_cons_self
    · refine List.mem_cons_of_mem _ (hs.stale_cancelled hj ?_)
      intro q hc
      cases busy.symm.trans hc
      exact own
  · intro job losing he
    rw [hcan]
    exact List.mem_cons_of_mem _ (hs.interrupted job losing (hw ▸ he))

/-- The current submission is settled. -/
theorem Slot.landed {job result losing} (hn : Numbered s) (hb : Settlements s)
    (hs : Slot setup s) (ended : s.worker = .ended job result losing) (busy : s.current = some p)
    (own : p.id = job.id) (hc : t.current = none) (hf : t.running = false)
    (hcan : t.cancelled = s.cancelled) (hl : t.lastId = s.lastId) (hq : t.unsettled = s.queue)
    (hw : ∀ job losing, t.worker ≠ .ended job (.error .cancelled) losing) : Slot setup t := by
  refine Slot.vacant hc hf (by rw [hcan, hl]; exact hs.issued) ?_
    (fun j l he => absurd he (hw j l))
  intro other hj
  rw [hq] at hj
  rw [hcan]
  have hu := unsettled_eq ended
  refine hs.stale_cancelled (hu ▸ List.mem_cons_of_mem _ hj) ?_
  intro q hqc he
  cases busy.symm.trans hqc
  have hnd := hb.unsettled_nodup hn
  rw [hu, List.map_cons, List.nodup_cons] at hnd
  exact hnd.1 (List.mem_map.mpr ⟨other, hj, by rw [← own, he]⟩)

/-- The current submission stays. -/
theorem Slot.kept (hs : Slot setup s) (hc : t.current = s.current) (hf : t.running = s.running)
    (hcan : t.cancelled = s.cancelled) (hl : t.lastId = s.lastId) (ha : t.accepted = s.accepted)
    (hst : ∀ p, s.current = some p → p.id ∉ t.settledIds)
    (hu : ∀ job ∈ t.unsettled, job ∈ s.unsettled)
    (hw : ∀ job losing, t.worker = .ended job (.error .cancelled) losing →
      job.id ∈ s.cancelled) : Slot setup t where
  flag := by rw [hf, hc]; exact hs.flag
  newest p h := ha ▸ hs.newest p (hc ▸ h)
  wanted p h := hcan ▸ hs.wanted p (hc ▸ h)
  waits p h := hst p (hc ▸ h)
  issued := by rw [hcan, hl]; exact hs.issued
  superseded job hj hn := hc ▸ hs.superseded job (hu job hj) (hcan ▸ hn)
  interrupted job losing h := hcan ▸ hw job losing h

theorem WorkerStep.interrupted {worker queue events job losing}
    (h : WorkerStep s worker queue events) (he : worker = .ended job (.error .cancelled) losing) :
    job.id ∈ s.cancelled := by
  cases h with
  | skip idle next stopped | interrupt calling stopped =>
    cases he
    exact stopped
  | finish result calling => cases result <;> cases he
  | deliver audited => split at he <;> cases he
  | _ => cases he

theorem Slot.worked {worker queue events} (hs : Slot setup s)
    (h : WorkerStep s worker queue events) :
    Slot setup { s with worker := worker, queue := queue, trace := s.trace ++ events } := by
  refine hs.kept rfl rfl rfl rfl (by simp [accepted, h.filterMap_eq_nil]) ?_ ?_
    (fun _ _ he => h.interrupted he)
  · intro p hc
    simpa [settledIds, settlements, h.filterMap_eq_nil] using hs.waits p hc
  · intro job hj
    rcases h.unsettled with hu | ⟨_, _, hnone⟩
    · exact hu ▸ hj
    · rw [unsettled, hnone] at hj
      cases hj

/-- A submission becomes the current one. -/
theorem Slot.joined (hn : Numbered s) (hb : Settlements s) (hs : Slot setup s) {request now}
    (idle : s.current = none) : Slot setup { s with
      current := some (setup.pending (setup.job s request now))
      lastId := s.lastId + 1
      running := true
      queue := s.queue ++ [setup.job s request now]
      tickets := s.tickets + 1
      store := setup.opened s.store request
      trace := s.trace ++ setup.acceptance s request now } where
  flag := rfl
  newest p h := by
    cases h
    exact ⟨setup.job s request now, by simp [accepted], rfl⟩
  wanted p h := by
    cases h
    exact fun hm => Nat.not_succ_le_self _ (hs.issued _ hm)
  waits p h := by
    cases h
    intro hm
    have hm : s.lastId + 1 ∈ s.settledIds := by
      simpa [settledIds, settlements, Setup.pending, Setup.job] using hm
    exact Nat.not_succ_le_self _ (hb.settled_le hn hm)
  issued id hm := Nat.le_succ_of_le (hs.issued id hm)
  superseded job hj hc := by
    rw [unsettled, ← List.append_assoc] at hj
    rcases List.mem_append.mp hj with hj | hj
    · exact absurd (hs.stale_cancelled hj (by simp [idle])) hc
    · rw [List.mem_singleton.mp hj]
      exact ⟨_, rfl, rfl⟩
  interrupted := hs.interrupted

theorem Slot.step (hn : Numbered s) (hb : Settlements s) (hs : Slot setup s)
    (h : Effect setup s t) : Slot setup t := by
  cases h with
  | rested closed idle =>
    exact hs.kept rfl rfl rfl rfl rfl hs.waits (fun _ hj => hj) hs.interrupted
  | stopped closed busy => exact hs.abandoned hn busy rfl rfl rfl rfl rfl rfl
  | debounced request busy => exact hs.abandoned hn busy rfl rfl rfl rfl rfl rfl
  | queued request now idle alive => exact hs.joined hn hb idle
  | refused request now idle dead =>
    exact Slot.vacant idle rfl (fun id hm => Nat.le_succ_of_le (hs.issued id hm))
      (fun job hj => hs.stale_cancelled hj (by simp [idle])) hs.interrupted
  | @discarded job result losing ended stale =>
    refine hs.kept rfl rfl rfl rfl (by simp [accepted]) ?_ ?_ (fun _ _ he => by cases he)
    · intro p hc
      have hw := hs.waits p hc
      have hne := stale p hc
      simpa [settledIds, settlements, hne] using hw
    · intro other hj
      rw [unsettled_eq ended]
      exact List.mem_cons_of_mem _ hj
  | generated elapsed ended busy own =>
    exact hs.landed hn hb ended busy own rfl rfl rfl rfl rfl (by simp)
  | failed ended busy own lost =>
    exact hs.landed hn hb ended busy own rfl rfl rfl rfl rfl (by simp)
  | hushed ended busy own =>
    exact hs.landed hn hb ended busy own rfl rfl rfl rfl rfl (by simp)
  | worked step => exact hs.worked step

theorem reachable_slot (hr : Reachable setup store s) : Slot setup s := by
  refine hr.induction ?_ (fun _ _ hr hs h => hs.step (reachable_numbered hr)
    (reachable_settlements hr) h) ?_
  · exact Slot.vacant rfl rfl (by simp [initial])
      (by simp [initial, unsettled, Worker.unsettled?]) (by simp [initial])
  · intro s store hs
    exact hs.kept rfl rfl rfl rfl rfl hs.waits (fun _ hj => hj) hs.interrupted

end Parley.State
