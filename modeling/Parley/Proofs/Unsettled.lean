import Parley.Proofs.Skipped

namespace Parley.State

variable {setup : Setup} {store : Store} {s : State} {job : Job} {moves : List Move}

def newest? (s : State) : Option Job := s.queue.getLast?.or s.worker.unsettled?

theorem newest?_eq (s : State) : s.newest? = s.unsettled.getLast? := by
  rw [newest?, unsettled, List.getLast?_append]
  cases s.worker.unsettled? <;> rfl

/-- Not every submission gets an id. -/
theorem reachable_lastId_le (hr : Reachable setup store s) : s.lastId ≤ s.tickets := by
  refine hr.induction (P := fun s => s.lastId ≤ s.tickets) (Nat.le_refl 0) ?_ (fun _ _ hs => hs)
  intro s t _ hs h
  rcases h.accepted with ⟨_, hid, hle⟩ | ⟨_, _, _, hid, ht⟩
  · omega
  · omega

theorem Settlements.id_le (hn : Numbered s) (hb : Settlements s) (hj : job ∈ s.unsettled) :
    job.id ≤ s.lastId :=
  hn.id_le (hb.known job hj)

/-- Nothing waits behind the submission accepted last. -/
theorem Settlements.newest (hn : Numbered s) (hb : Settlements s) (hj : job ∈ s.unsettled)
    (hid : job.id = s.lastId) : s.newest? = some job := by
  obtain ⟨front, back, hsplit⟩ := List.append_of_mem hj
  have hnone : back = [] := by
    apply List.eq_nil_iff_forall_not_mem.mpr
    intro other ho
    have hids := hb.ascending hn
    rw [hsplit, List.map_append, List.map_cons] at hids
    have hlt : job.id < other.id :=
      List.rel_of_pairwise_cons (List.pairwise_append.mp hids).2.1 (List.mem_map_of_mem ho)
    have hle : other.id ≤ s.lastId := hb.id_le hn (by simp [hsplit, ho])
    omega
  rw [newest?_eq, hsplit, hnone, List.getLast?_concat]

/-- An unsettled submission is wanted exactly while it is the current one. -/
theorem Slot.wanted_iff (hs : Slot setup s) (hj : job ∈ s.unsettled) :
    job.id ∉ s.cancelled ↔ ∃ p, s.current = some p ∧ p.id = job.id := by
  constructor
  · exact hs.superseded job hj
  · rintro ⟨p, hc, hid⟩
    exact hid ▸ hs.wanted p hc

/-- As long as there is a worker, the jobs that are not settled, the one in its hands first, have
ascending ids up to the last one given out, and no more ids were given out than there were
submissions. Such a job is not cancelled exactly if the current submission has its id. The current
submission has the last id and is that of the newest job; all the other jobs are cancelled, and all
without exception if nothing is current. -/
theorem unsettled_disciplined (h : (initial store).play setup moves = some s)
    (alive : s.worker.isGone = false) :
    (s.unsettled.map Job.id).Pairwise (· < ·) ∧
    (∀ job ∈ s.unsettled, job.id ≤ s.lastId) ∧ s.lastId ≤ (requests moves).length ∧
    (∀ job ∈ s.unsettled, job.id ∉ s.cancelled ↔ ∃ p, s.current = some p ∧ p.id = job.id) ∧
    (∀ p, s.current = some p → p.id = s.lastId ∧
      ∃ job, s.newest? = some job ∧ p = setup.pending job ∧
        ∀ other ∈ s.unsettled, other ≠ job → other.id ∈ s.cancelled) ∧
    (s.current = none → ∀ job ∈ s.unsettled, job.id ∈ s.cancelled) := by
  have hr : Reachable setup store s := ⟨moves, h⟩
  have hn := reachable_numbered hr
  have hb := reachable_settlements hr
  have hs := reachable_slot hr
  refine ⟨hb.ascending hn, fun job hj => hb.id_le hn hj, ?_, fun job hj => hs.wanted_iff hj, ?_, ?_⟩
  · exact (play_returned h).issued ▸ reachable_lastId_le hr
  · intro p hc
    have hunderway : Underway s := (reachable_underway hr).resolve_left (by simp [alive])
    obtain ⟨job, hj, hid⟩ := hunderway p hc
    have hlast : job.id = s.lastId := hid.trans (hs.current_id hn hc)
    refine ⟨hs.current_id hn hc, job, hb.newest hn hj hlast,
      (hs.own hn hc (hb.known job hj) hid.symm).2, ?_⟩
    intro other ho hne
    apply hs.stale_cancelled ho
    intro q hq hsame
    cases hc.symm.trans hq
    exact hne (List.inj_on_of_nodup_map hn.ids_nodup (hb.known other ho) (hb.known job hj)
      (hsame.symm.trans hid.symm))
  · intro hc job hj
    exact hs.stale_cancelled hj (by simp [hc])

/-- A call goes on although it was cancelled, and the current submission waits behind it. -/
theorem unsettled_disciplined_piled_up :
    ∃ moves s, (initial .empty).play ⟨"p", compose⟩ moves = some s ∧
      s.worker.isGone = false ∧ s.unsettled.map Job.id = [1, 2] ∧ s.lastId = 2 ∧
      (∀ job ∈ s.unsettled, job.id ∉ s.cancelled ↔ job.id = 2) ∧
      s.newest?.map Job.id = some 2 := by
  let request (input : String) : Request := ⟨⟨"k"⟩, input, [], ⟨.mock, "m"⟩, 0, none, none⟩
  let moves : List Move := [.own (.submit (request "a") 0), .own (.take 1),
    .own (.submit (request "b") 2), .own (.submit (request "c") 3)]
  have h : (initial .empty).play ⟨"p", compose⟩ moves = some _ := rfl
  obtain ⟨_, _, _, hwanted, hcurrent, _⟩ := unsettled_disciplined h rfl
  obtain ⟨_, newest, hnewest, hpending, _⟩ := hcurrent _ rfl
  refine ⟨moves, _, h, rfl, by decide +kernel, rfl, ?_, ?_⟩
  · intro job hj
    rw [hwanted job hj]
    constructor
    · rintro ⟨p, hp, hid⟩
      cases hp
      exact hid.symm
    · intro hid
      exact ⟨_, rfl, hid.symm⟩
  · rw [hnewest]
    exact congrArg (fun p => some (Pending.id p)) hpending.symm

end Parley.State
