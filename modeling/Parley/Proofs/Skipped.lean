import Parley.Proofs.Delivery
import Parley.Proofs.Memory
import Parley.Proofs.Outcomes
import Parley.Proofs.RunningFlag

namespace Parley.State

variable {setup : Setup} {store : Store} {s t : State} {job : Job} {completion : Completion}

/-- The submission with this ticket is the current one. -/
def IsCurrent (s : State) (ticket : Nat) : Prop :=
  ∃ p, s.current = some p ∧ ∃ job ∈ s.accepted, job.ticket = ticket ∧ job.id = p.id

/-- The turns of a conversation that are not of the submission with this ticket. -/
def turnsBut (setup : Setup) (s : State) (ticket : Nat) (key : ConversationKey) : List Message :=
  ((s.submissions key).filter (fun job => job.ticket ≠ ticket ∧ job.id ∈ s.generated)).flatMap
    (s.turn setup)

/-- The submission with this ticket is not current, and all that was added to the conversations in
`store` is of others, the messages that open conversations apart. -/
structure Forgotten (setup : Setup) (store : Store) (s : State) (ticket : Nat) : Prop where
  past : ¬ s.IsCurrent ticket
  others : ∀ key, s.store.history key = store.history key ++
    s.prime setup (store.history key) key ++ s.turnsBut setup ticket key ++ s.pendingMessages key

/-- Every accepted submission is settled, cancelled or current. -/
def Accounted (s : State) : Prop :=
  ∀ job ∈ s.accepted, job.id ∈ s.settledIds ∨ job.id ∈ s.cancelled ∨
    ∃ p, s.current = some p ∧ p.id = job.id

theorem Accounted.kept (hs : Accounted s)
    (ha : ∀ job ∈ t.accepted, job ∈ s.accepted ∨ job.id ∈ t.settledIds ∨
      ∃ p, t.current = some p ∧ p.id = job.id)
    (hset : s.settledIds ⊆ t.settledIds) (hcan : s.cancelled ⊆ t.cancelled)
    (hc : ∀ p, s.current = some p →
      p.id ∈ t.settledIds ∨ p.id ∈ t.cancelled ∨ t.current = some p) : Accounted t := by
  intro job hj
  rcases ha job hj with hj | hj | hj
  · rcases hs job hj with hj | hj | ⟨p, hp, he⟩
    · exact .inl (hset hj)
    · exact .inr (.inl (hcan hj))
    · rw [← he]
      rcases hc p hp with hj | hj | hj
      · exact .inl hj
      · exact .inr (.inl hj)
      · exact .inr (.inr ⟨p, hj, rfl⟩)
  · exact .inl hj
  · exact .inr (.inr hj)

theorem Accounted.step (hs : Accounted s) (h : Effect setup s t) : Accounted t := by
  cases h with
  | rested =>
    exact hs.kept (fun _ hj => .inl hj) (fun _ h => h) (fun _ h => h)
      (fun _ hp => .inr (.inr hp))
  | worked step =>
    refine hs.kept ?_ ?_ (fun _ h => h) (fun _ hp => .inr (.inr hp))
    · exact fun _ hj => .inl (by simpa [accepted, step.filterMap_eq_nil] using hj)
    · simp [settledIds, settlements]
  | stopped closed busy | debounced request busy =>
    refine hs.kept ?_ (by simp [settledIds, settlements]) (by simp) ?_
    · exact fun _ hj => .inl (by simpa [accepted, List.filterMap_cons] using hj)
    · intro q hq
      cases busy.symm.trans hq
      exact .inr (.inl List.mem_cons_self)
  | queued request now idle alive =>
    refine hs.kept ?_ (by simp [settledIds, settlements]) (fun _ h => h) ?_
    · intro job hj
      have hj : job ∈ s.accepted ∨ job = setup.job s request now := by simpa [accepted] using hj
      rcases hj with hj | rfl
      · exact .inl hj
      · exact .inr (.inr ⟨_, rfl, rfl⟩)
    · intro q hq
      cases idle.symm.trans hq
  | refused request now idle dead =>
    refine hs.kept ?_ (by simp [settledIds, settlements]) (fun _ h => h) ?_
    · intro job hj
      have hj : job ∈ s.accepted ∨ job = setup.job s request now := by
        simpa [accepted, List.filterMap_cons] using hj
      rcases hj with hj | rfl
      · exact .inl hj
      · exact .inr (.inl (by simp [settledIds, settlements, Setup.job, List.filterMap_cons]))
    · intro q hq
      cases idle.symm.trans hq
  | discarded ended =>
    refine hs.kept ?_ (by simp [settledIds, settlements]) (fun _ h => h)
      (fun _ hp => .inr (.inr hp))
    exact fun _ hj => .inl (by simpa [accepted, List.filterMap_cons] using hj)
  | generated _ ended busy own | failed ended busy own | hushed ended busy own =>
    refine hs.kept ?_ (by simp [settledIds, settlements]) (fun _ h => h) ?_
    · exact fun _ hj => .inl (by simpa [accepted, List.filterMap_cons] using hj)
    · intro q hq
      cases busy.symm.trans hq
      exact .inl (by simp [settledIds, settlements, own, List.filterMap_cons])

theorem reachable_accounted (hr : Reachable setup store s) : Accounted s :=
  hr.induction (fun _ hj => (nomatch hj)) (fun _ _ _ hs h => hs.step h) (fun _ _ hs => hs)

/-- A result comes to nothing only if its submission was cancelled. -/
def Dismissed (s : State) : Prop :=
  ∀ id result, (id, result, .skipped) ∈ s.settlements → id ∈ s.cancelled

theorem Dismissed.kept (hs : Dismissed s) (hcan : s.cancelled ⊆ t.cancelled)
    (hb : ∀ id result, (id, result, .skipped) ∈ t.settlements →
      (id, result, .skipped) ∈ s.settlements ∨ id ∈ s.cancelled) : Dismissed t := by
  intro id result hm
  rcases hb id result hm with hm | hm
  · exact hcan (hs id result hm)
  · exact hcan hm

theorem Dismissed.step (hslot : Slot setup s) (hs : Dismissed s) (h : Effect setup s t) :
    Dismissed t := by
  cases h with
  | rested => exact hs.kept (fun _ h => h) (fun _ _ hm => .inl hm)
  | worked step =>
    refine hs.kept (fun _ h => h) (fun _ _ hm => .inl ?_)
    simpa [settlements, step.filterMap_eq_nil] using hm
  | stopped | debounced =>
    refine hs.kept (by simp) (fun _ _ hm => .inl ?_)
    simpa [settlements, List.filterMap_cons] using hm
  | queued =>
    refine hs.kept (fun _ h => h) (fun _ _ hm => .inl ?_)
    simpa [settlements] using hm
  | refused | generated | failed =>
    refine hs.kept (fun _ h => h) (fun _ _ hm => .inl ?_)
    simpa [settlements, List.filterMap_cons] using hm
  | @discarded job result losing ended stale =>
    refine hs.kept (fun _ h => h) ?_
    intro id result' hm
    have hm : (id, result', .skipped) ∈ s.settlements ∨ id = job.id ∧ result' = result := by
      simpa [settlements] using hm
    rcases hm with hm | ⟨rfl, _⟩
    · exact .inl hm
    · exact .inr (hslot.stale_cancelled (mem_unsettled ended) stale)
  | hushed ended busy own => exact absurd own (hslot.not_hushed busy ended)

theorem reachable_dismissed (hr : Reachable setup store s) : Dismissed s :=
  hr.induction (fun _ _ hm => (nomatch hm)) (fun _ _ hr hs h => hs.step (reachable_slot hr) h)
    (fun _ _ hs => hs)

/-- While there is a worker, the job of the current submission is on its way. -/
theorem reachable_underway (hr : Reachable setup store s) :
    s.worker.isGone = true ∨ Underway s := by
  refine hr.induction (P := fun s => s.worker.isGone = true ∨ Underway s)
    (.inr (fun _ hc => (nomatch hc))) ?_ (fun _ _ hs => hs)
  intro s t _ hs h
  cases ht : t.worker.isGone with
  | true => exact .inl rfl
  | false =>
    rcases hs with hg | hu
    · rw [h.gone hg] at ht
      cases ht
    · refine .inr (hu.step h ?_)
      intro hg
      rw [ht] at hg
      cases hg

/-- A skipped submission that nobody cancelled is still the current one, and there is no worker. -/
theorem stuck_of_skipped (hr : Reachable setup store s) (hj : job ∈ s.accepted)
    (hm : (job.ticket, completion) ∈ s.completions) (hskip : completion.outcome = .skipped)
    (hc : job.id ∉ s.cancelled) :
    s.worker.isGone = true ∧ s.current = some (setup.pending job) := by
  have hn := reachable_numbered hr
  have hnew : job.id ∉ s.settledIds := by
    rcases (reachable_informed hr).told job hj completion hm with ⟨result, hset⟩ | ⟨_, hnew⟩
    · rw [hskip] at hset
      exact absurd (reachable_dismissed hr _ _ hset) hc
    · exact hnew
  obtain ⟨p, hp, hid⟩ : ∃ p, s.current = some p ∧ p.id = job.id := by
    rcases reachable_accounted hr job hj with h | h | h
    · exact absurd h hnew
    · exact absurd h hc
    · exact h
  obtain ⟨-, hown⟩ := (reachable_slot hr).own hn hp hj hid
  refine ⟨?_, hown ▸ hp⟩
  rcases reachable_underway hr with hg | hu
  · exact hg
  · -- With a worker the job would wait for its answer, but it was answered.
    obtain ⟨other, ho, hoid⟩ := hu p hp
    have hsame : other = job :=
      List.inj_on_of_nodup_map hn.ids_nodup ((reachable_settlements hr).known other ho) hj
        (hoid.trans hid)
    have hwait := (reachable_answers hr).waiting hn (unsettled_subset_undelivered ho)
    exact absurd (answered_of_completion hm) (hsame ▸ hwait)

theorem cancelled_silent (hr : Reachable setup store s) {id : Nat} (hc : id ∈ s.cancelled) :
    id ∉ s.generated := by
  intro hg
  obtain ⟨result, reply, hset⟩ := settlement_of_generated hg
  cases (reachable_judged hr _ _ _ hset).1 hc

/-- What was cancelled adds no turn. -/
theorem turnsBut_eq (hr : Reachable setup store s) {ticket : Nat}
    (hc : ∀ job ∈ s.accepted, job.ticket = ticket → job.id ∈ s.cancelled) (key : ConversationKey) :
    s.turnsBut setup ticket key = s.turns setup key := by
  rw [turnsBut, turns]
  refine congrArg (fun jobs => List.flatMap (s.turn setup) jobs) (List.filter_congr ?_)
  intro job hj
  refine decide_eq_decide.mpr (and_iff_right_of_imp ?_)
  exact fun hg ht => cancelled_silent hr (hc job (List.mem_of_mem_filter hj) ht) hg

/-- A skipped submission is forgotten if it was turned away or cancelled. One that was not is stuck:
the worker ended while it waited in the queue as the current submission. It stays current, the flag
stays up and its user message stays where it is until somebody cancels it. -/
theorem skipped_forgotten_iff {actions : List Action}
    (h : (initial store).run setup actions = some s) {ticket : Nat}
    (hm : (ticket, completion) ∈ s.completions) (hskip : completion.outcome = .skipped) :
    (Forgotten setup store s ticket ↔
      ∀ job ∈ s.accepted, job.ticket = ticket → job.id ∈ s.cancelled) ∧
    ∀ job ∈ s.accepted, job.ticket = ticket → job.id ∉ s.cancelled →
      s.worker.isGone = true ∧ s.current = some (setup.pending job) ∧ s.running = true ∧
        s.store.last? job.request.key =
          some (setup.compose job.request.input job.request.attachments) := by
  have hr : Reachable setup store s := ⟨_, h⟩
  have hslot := reachable_slot hr
  have hstuck : ∀ job ∈ s.accepted, job.ticket = ticket → job.id ∉ s.cancelled →
      s.worker.isGone = true ∧ s.current = some (setup.pending job) :=
    fun job hj ht hc => stuck_of_skipped hr hj (ht ▸ hm) hskip hc
  refine ⟨⟨?_, ?_⟩, ?_⟩
  · intro hf job hj ht
    by_contra hc
    exact hf.past ⟨_, (hstuck job hj ht hc).2, job, hj, ht, rfl⟩
  · intro hc
    refine ⟨?_, ?_⟩
    · rintro ⟨p, hp, job, hj, ht, hid⟩
      exact hslot.wanted p hp (hid ▸ hc job hj ht)
    · intro key
      rw [turnsBut_eq hr hc]
      exact play_remembered h (by simp [Move.touches])
  · intro job hj ht hc
    obtain ⟨hgone, hp⟩ := hstuck job hj ht hc
    refine ⟨hgone, hp, by rw [hslot.flag, hp]; rfl, ?_⟩
    exact play_last h (by simp [Move.touches]) _ hp rfl

/-- A submission is stopped while its call goes on, and skipped when the next one waits already. -/
theorem skipped_forgotten_iff_stopped :
    ∃ actions s completion, (initial .empty).run ⟨"p", compose⟩ actions = some s ∧
      (0, completion) ∈ s.completions ∧ completion.outcome = .skipped ∧
      Forgotten ⟨"p", compose⟩ .empty s 0 ∧ s.current.isSome = true := by
  let request (input : String) : Request := ⟨⟨"k"⟩, input, [], ⟨.mock, "m"⟩, 0, none, none⟩
  let actions : List Action := [.submit (request "one") 0, .take 1, .cancel,
    .submit (request "two") 2, .interrupt, .conclude 3, .audit (some ⟨0, 0, 0⟩), .deliver]
  have h : (initial .empty).run ⟨"p", compose⟩ actions = some _ := rfl
  let completion : Completion := ⟨request "one", .skipped⟩
  have hforgotten :=
    (@skipped_forgotten_iff _ _ _ completion _ h 0 (by decide +kernel) rfl).1.mpr (by decide +kernel)
  exact ⟨actions, _, completion, h, by decide +kernel, rfl, hforgotten, rfl⟩

/-- The worker ends with the current submission in the queue. That is skipped, and yet it is current,
the flag is up and its user message stands. -/
theorem skipped_but_current :
    ∃ actions s completion, (initial .empty).run ⟨"p", compose⟩ actions = some s ∧
      (1, completion) ∈ s.completions ∧ completion.outcome = .skipped ∧
      s.current = some ⟨2, ⟨"k"⟩, ⟨.user, "b"⟩⟩ ∧ s.running = true ∧
      s.store.history ⟨"k"⟩ = [Setup.primer ⟨"p", compose⟩, ⟨.user, "b"⟩] := by
  let request (input : String) : Request := ⟨⟨"k"⟩, input, [], ⟨.mock, "m"⟩, 0, none, none⟩
  let actions : List Action := [.submit (request "a") 0, .cancel, .submit (request "b") 1, .take 2,
    .conclude 3, .audit none]
  have h : (initial .empty).run ⟨"p", compose⟩ actions = some _ := rfl
  exact ⟨actions, _, ⟨request "b", .skipped⟩, h, by decide +kernel, rfl, by decide +kernel, rfl,
    by decide +kernel⟩

end Parley.State
