import Parley.Proofs.Outcomes

namespace Parley

def Outcome.ofFailure (provider : Provider) : CallFailure → Outcome
  | .model error =>
    .failed (if provider = .jan then .modelNotActive janModelNotActive
      else .providerUnavailable error.text)
  | .timeout seconds => .failed (.timeout seconds)
  | .cancelled => .skipped

theorem Outcome.ofFailure_eq {provider : Provider} {failure : CallFailure}
    (lost : failure ≠ .cancelled) :
    .failed (classify failure provider) = ofFailure provider failure := by
  cases failure with
  | cancelled => exact absurd rfl lost
  | timeout n => rfl
  | model error => cases provider <;> rfl

namespace State

variable {setup : Setup} {store : Store} {s t : State} {job : Job}

/-- What becomes of a failed submission that was not cancelled. -/
def Classified (s : State) : Prop :=
  ∀ job ∈ s.accepted, ∀ failure outcome, (job.id, .error failure, outcome) ∈ s.settlements →
    job.id ∉ s.cancelled → outcome = .ofFailure job.request.model.provider failure

theorem Classified.kept (hs : Classified s) (ha : t.accepted = s.accepted)
    (hb : t.settlements = s.settlements) (hcan : s.cancelled ⊆ t.cancelled) : Classified t := by
  intro job hj failure outcome hm hc
  rw [ha] at hj
  rw [hb] at hm
  exact hs job hj failure outcome hm (fun h => hc (hcan h))

/-- One more result is settled. -/
theorem Classified.settled (result : Except CallFailure String) (outcome : Outcome)
    (hn : Numbered t) (hs : Classified s) (hj : job ∈ s.accepted) (ha : t.accepted = s.accepted)
    (hb : t.settlements = s.settlements ++ [(job.id, result, outcome)])
    (hcan : t.cancelled = s.cancelled)
    (hnew : ∀ failure, result = .error failure → job.id ∉ s.cancelled →
      outcome = .ofFailure job.request.model.provider failure) : Classified t := by
  intro other ho failure found hm hc
  rw [ha] at ho
  rw [hb] at hm
  rw [hcan] at hc
  rcases List.mem_append.mp hm with hm | hm
  · exact hs other ho failure found hm hc
  · obtain ⟨hid, hresult, rfl⟩ : other.id = job.id ∧ .error failure = result ∧ found = outcome := by
      simpa using hm
    obtain rfl := List.inj_on_of_nodup_map (ha ▸ hn.ids_nodup) ho hj hid
    exact hnew failure hresult.symm hc

/-- A submission is accepted, and not settled yet. -/
theorem Classified.joined (hn : Numbered s) (hb : Settlements s) (hs : Classified s)
    (hid : job.id = s.lastId + 1) (ha : t.accepted = s.accepted ++ [job])
    (hset : t.settlements = s.settlements) (hcan : t.cancelled = s.cancelled) : Classified t := by
  intro other ho failure outcome hm hc
  rw [ha] at ho
  rw [hset] at hm
  rw [hcan] at hc
  rcases List.mem_append.mp ho with ho | ho
  · exact hs other ho failure outcome hm hc
  · obtain rfl := List.mem_singleton.mp ho
    have hle := hb.settled_le hn (List.mem_map_of_mem (f := Prod.fst) hm)
    rw [hid] at hle
    exact absurd hle (Nat.not_succ_le_self _)

theorem Classified.step (hr : Reachable setup store s) (hs : Classified s)
    (h : Effect setup s t) : Classified t := by
  have hn := reachable_numbered hr
  have hb := reachable_settlements hr
  have hslot := reachable_slot hr
  have hnt : Numbered t := hn.step h
  cases h with
  | rested => exact hs.kept rfl rfl (fun _ h => h)
  | worked step =>
    exact hs.kept (by simp [accepted, step.filterMap_eq_nil])
      (by simp [settlements, step.filterMap_eq_nil]) (fun _ h => h)
  | stopped | debounced =>
    exact hs.kept (by simp [accepted]) (by simp [settlements]) (List.subset_cons_self _ _)
  | queued request now idle alive =>
    exact @Classified.joined s _ (setup.job s request now) hn hb hs rfl (by simp [accepted])
      (by simp [settlements]) rfl
  | refused request now idle dead =>
    have hjoined : Classified (s.admitted setup request now) :=
      @Classified.joined s _ (setup.job s request now) hn hb hs rfl (by simp [accepted, admitted])
        (by simp [settlements, admitted]) rfl
    refine @Classified.settled (s.admitted setup request now) _ (setup.job s request now)
      (.error noWorker) (.failed (classify noWorker request.model.provider)) hnt hjoined
      (by simp [accepted, admitted]) (by simp [accepted, admitted])
      (by simp [settlements, admitted, List.filterMap_cons, Setup.job]) rfl ?_
    intro failure he _
    cases he
    exact Outcome.ofFailure_eq (by simp [noWorker])
  | @discarded job result losing ended stale =>
    refine hs.settled result .skipped hnt (hb.known job (mem_unsettled ended)) (by simp [accepted])
      (by simp [settlements]) rfl ?_
    exact fun _ _ hc => absurd (hslot.stale_cancelled (mem_unsettled ended) stale) hc
  | @generated job text losing p elapsed ended busy own =>
    exact hs.settled (.ok text) (.generated ⟨⟨.assistant, text⟩, elapsed⟩) hnt
      (hb.known job (mem_unsettled ended)) (by simp [accepted, List.filterMap_cons])
      (by simp [settlements, List.filterMap_cons]) rfl (fun _ he => by cases he)
  | @failed job failure losing p ended busy own lost =>
    refine hs.settled (.error failure) (.failed (classify failure job.request.model.provider)) hnt
      (hb.known job (mem_unsettled ended)) (by simp [accepted, List.filterMap_cons])
      (by simp [settlements, List.filterMap_cons]) rfl ?_
    intro other he _
    cases he
    exact Outcome.ofFailure_eq lost
  | hushed ended busy own => exact absurd own (hslot.not_hushed busy ended)

theorem reachable_classified (hr : Reachable setup store s) : Classified s :=
  hr.induction (fun _ hj => (nomatch hj)) (fun _ _ hr hs h => hs.step hr h) (fun _ _ hs => hs)

/-- What the caller of a failed submission hears: how its failure is told for its provider, or that
nothing came of it if it was cancelled. -/
theorem told_failure {failure : CallFailure} {outcome : Outcome} {completion : Completion}
    (hr : Reachable setup store s) (hj : job ∈ s.accepted)
    (hset : (job.id, .error failure, outcome) ∈ s.settlements)
    (hm : (job.ticket, completion) ∈ s.completions) :
    completion.outcome = if job.id ∈ s.cancelled then .skipped
      else .ofFailure job.request.model.provider failure := by
  by_cases hc : job.id ∈ s.cancelled
  · rw [if_pos hc]
    exact told_skipped hr hj hc hm
  · rw [if_neg hc, told_settled hr hj hset hm]
    exact reachable_classified hr job hj failure outcome hset hc

end State

end Parley
