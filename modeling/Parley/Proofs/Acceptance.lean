import Parley.Proofs.Runs
import Parley.Proofs.Views

namespace Parley.State

variable {setup : Setup} {store : Store} {s t : State} {job : Job}

/-- What one step does to the list of accepted submissions. -/
theorem Effect.accepted (h : Effect setup s t) :
    (t.accepted = s.accepted ∧ t.lastId = s.lastId ∧ s.tickets ≤ t.tickets) ∨
      ∃ request now, t.accepted = s.accepted ++ [setup.job s request now] ∧
        t.lastId = s.lastId + 1 ∧ t.tickets = s.tickets + 1 := by
  cases h with
  | queued request now idle alive =>
    exact .inr ⟨request, now, by simp [State.accepted], rfl, rfl⟩
  | refused request now idle dead =>
    exact .inr ⟨request, now, by simp [State.accepted], rfl, rfl⟩
  | worked step =>
    exact .inl ⟨by simp [State.accepted, step.filterMap_eq_nil], rfl, Nat.le_refl _⟩
  | _ => exact .inl ⟨by simp [State.accepted], rfl, by simp⟩

structure Numbered (s : State) : Prop where
  ids : s.accepted.map Job.id = List.range' 1 s.lastId
  tickets : (s.accepted.map Job.ticket).Pairwise (· < ·)
  issued : ∀ job ∈ s.accepted, job.ticket < s.tickets

theorem Numbered.step (hs : Numbered s) (h : Effect setup s t) : Numbered t := by
  rcases h.accepted with ⟨ha, hid, hle⟩ | ⟨request, now, ha, hid, ht⟩
  · refine ⟨by rw [ha, hid]; exact hs.ids, by rw [ha]; exact hs.tickets, ?_⟩
    intro job hj
    rw [ha] at hj
    exact Nat.lt_of_lt_of_le (hs.issued job hj) hle
  · refine ⟨?_, ?_, ?_⟩
    · rw [ha, hid, List.map_append, hs.ids, List.range'_1_concat, Nat.add_comm 1]
      rfl
    · rw [ha, List.map_append]
      refine List.pairwise_append.mpr ⟨hs.tickets, List.pairwise_singleton _ _, ?_⟩
      intro a hm b hb
      obtain ⟨job, hj, rfl⟩ := List.mem_map.mp hm
      rw [List.mem_singleton.mp hb]
      exact hs.issued job hj
    · intro job hj
      rw [ha] at hj
      rw [ht]
      rcases List.mem_append.mp hj with hj | hj
      · exact Nat.lt_succ_of_lt (hs.issued job hj)
      · rw [List.mem_singleton.mp hj]
        exact Nat.lt_succ_self _

theorem reachable_numbered (hr : Reachable setup store s) : Numbered s :=
  hr.induction ⟨rfl, .nil, by simp [initial, accepted]⟩ (fun _ _ _ hs h => hs.step h)
    (fun _ _ hs => ⟨hs.ids, hs.tickets, hs.issued⟩)

theorem Numbered.id_le (hs : Numbered s) (hj : job ∈ s.accepted) : job.id ≤ s.lastId := by
  have hm := List.mem_map_of_mem (f := Job.id) hj
  rw [hs.ids, List.mem_range'_1] at hm
  omega

theorem Numbered.ids_nodup (hs : Numbered s) : (s.accepted.map Job.id).Nodup :=
  hs.ids ▸ List.nodup_range'

theorem Numbered.ids_ascending (hs : Numbered s) : (s.accepted.map Job.id).Pairwise (· < ·) :=
  hs.ids ▸ List.pairwise_lt_range'

/-- Of two submissions to one conversation the earlier one has the lower id. -/
theorem Numbered.earlier {key : ConversationKey} {front back : List Job} {other : Job}
    (hs : Numbered s) (hsub : s.submissions key = front ++ job :: back) (ho : other ∈ front) :
    other.id < job.id := by
  have hsubs : (s.submissions key).Pairwise (fun a b => a.id < b.id) :=
    (List.pairwise_map.mp hs.ids_ascending).sublist List.filter_sublist
  rw [hsub] at hsubs
  exact (List.pairwise_append.mp hsubs).2.2 other ho job List.mem_cons_self

theorem Numbered.tickets_nodup (hs : Numbered s) : (s.accepted.map Job.ticket).Nodup :=
  hs.tickets.imp Nat.ne_of_lt

/-- The submission accepted last has the last id. -/
theorem Numbered.last_id (hs : Numbered s) (hj : s.accepted.getLast? = some job) :
    job.id = s.lastId := by
  have hm : (s.accepted.map Job.id).getLast? = some job.id := by simp [hj]
  rw [hs.ids, List.getLast?_range'] at hm
  split at hm
  · cases hm
  · have he := Option.some.inj hm
    omega

end Parley.State
