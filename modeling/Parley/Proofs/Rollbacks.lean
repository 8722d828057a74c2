import Parley.Proofs.FailedTurns
import Parley.Proofs.Footprint
import Parley.Proofs.Races
import Parley.Proofs.Skipped

namespace Parley

theorem Setup.undoing_opened (setup : Setup) (s : State) (request : Request) (now : Instant) :
    (setup.pending (setup.job s request now)).undoing (setup.opened s.store request) =
      .wrote (s.lastId + 1) (.removeLast request.key) :=
  if_pos (last?_opened request)

theorem Setup.skipped_acceptance (setup : Setup) (s : State) (request : Request) (now : Instant) :
    (setup.acceptance s request now).filterMap Event.rollbackSkipped? = [] := by
  simp [acceptance, List.filterMap_map, Function.comp_def]

namespace State

variable {setup : Setup} {store : Store} {s t : State} {job : Job} {p : Pending}
  {actions : List Action}

/-- The user message of the current submission stands last, and was found there whenever it was
looked for. -/
structure Orderly (s : State) : Prop where
  last : ∀ key, Last key s
  silent : s.skippedRollbacks = []

theorem Orderly.undoing (hs : Orderly s) (busy : s.current = some p) :
    p.undoing s.store = .wrote p.id (.removeLast p.key) :=
  if_pos (hs.last p.key p busy rfl)

theorem Orderly.step (hs : Orderly s) (h : Effect setup s t) : Orderly t := by
  refine ⟨fun key => (hs.last key).step h, ?_⟩
  have hsilent : s.trace.filterMap Event.rollbackSkipped? = [] := hs.silent
  cases h with
  | rested => exact hsilent
  | stopped closed busy | debounced request busy | failed ended busy =>
    simp [skippedRollbacks, hs.undoing busy, hsilent]
  | queued request now =>
    simp [skippedRollbacks, setup.skipped_acceptance, hsilent]
  | refused request now =>
    simp [skippedRollbacks, setup.skipped_acceptance, setup.undoing_opened, hsilent]
  | discarded | generated | hushed => simp [skippedRollbacks, hsilent]
  | worked step => simp [skippedRollbacks, step.filterMap_eq_nil, hsilent]

theorem run_orderly (h : (initial store).run setup actions = some s) : Orderly s :=
  reachable_initial.run_induction ⟨fun _ _ hc => (nomatch hc), rfl⟩
    (fun _ _ _ hs he => hs.step he) h

/-- Nothing else is worth a warning. -/
theorem not_warned (hs : s.skippedRollbacks = []) {entry : LogEntry} (h : entry ∈ s.logged) :
    entry.level ≠ .warn := by
  obtain ⟨e, he, hlog⟩ := List.mem_filterMap.mp h
  cases e with
  | rollbackSkipped key =>
    have hm : key ∈ s.skippedRollbacks := List.mem_filterMap.mpr ⟨_, he, rfl⟩
    rw [hs] at hm
    cases hm
  | cancelled | reported =>
    cases hlog
    simp
  | _ => cases hlog

/-- A cancellation is never settled as a failure, and the result of a cancelled call comes to
nothing. -/
def Hushed (s : State) : Prop :=
  ∀ id result outcome, (id, result, outcome) ∈ s.settlements →
    outcome ≠ .failed .cancelled ∧ (result = .error .cancelled → outcome = .skipped)

theorem Hushed.kept (hs : Hushed s) (hb : t.settlements = s.settlements) : Hushed t := by
  intro id result outcome hm
  exact hs id result outcome (hb ▸ hm)

/-- One more result is settled. -/
theorem Hushed.settled (id : Nat) (result : Except CallFailure String) (outcome : Outcome)
    (hs : Hushed s) (hb : t.settlements = s.settlements ++ [(id, result, outcome)])
    (ho : outcome ≠ .failed .cancelled) (hskip : result = .error .cancelled → outcome = .skipped) :
    Hushed t := by
  intro id' result' outcome' hm
  rw [hb] at hm
  rcases List.mem_append.mp hm with hm | hm
  · exact hs id' result' outcome' hm
  · cases List.mem_singleton.mp hm
    exact ⟨ho, hskip⟩

theorem Hushed.step (hs : Hushed s) (h : Effect setup s t) : Hushed t := by
  -- What is classified as a cancellation was one.
  have hfailed {failure : CallFailure} {provider : Provider} (lost : failure ≠ .cancelled) :
      Outcome.failed (classify failure provider) ≠ .failed .cancelled :=
    fun he => lost (classify_eq_cancelled (Outcome.failed.inj he))
  cases h with
  | rested => exact hs.kept rfl
  | stopped | debounced | queued => exact hs.kept (by simp [settlements])
  | worked step => exact hs.kept (by simp [settlements, step.filterMap_eq_nil])
  | refused request now =>
    have hlost : noWorker ≠ .cancelled := by simp [noWorker]
    exact hs.settled (s.lastId + 1) (.error noWorker)
      (.failed (classify noWorker request.model.provider))
      (by simp [settlements, List.filterMap_cons]) (hfailed hlost)
      (fun he => absurd (Except.error.inj he) hlost)
  | @discarded job result losing =>
    exact hs.settled job.id result .skipped (by simp [settlements]) (by simp) (fun _ => rfl)
  | @hushed job losing =>
    exact hs.settled job.id (.error .cancelled) .skipped (by simp [settlements]) (by simp)
      (fun _ => rfl)
  | @generated job text losing p elapsed =>
    exact hs.settled job.id (.ok text) (.generated ⟨⟨.assistant, text⟩, elapsed⟩)
      (by simp [settlements, List.filterMap_cons]) (by simp) (by simp)
  | @failed job failure losing p ended busy own lost =>
    exact hs.settled job.id (.error failure)
      (.failed (classify failure job.request.model.provider))
      (by simp [settlements, List.filterMap_cons]) (hfailed lost)
      (fun he => absurd (Except.error.inj he) lost)

theorem reachable_hushed (hr : Reachable setup store s) : Hushed s :=
  hr.induction (fun _ _ _ hm => (nomatch hm)) (fun _ _ _ hs h => hs.step h) (fun _ _ hs => hs)

/-- Nobody is told of a cancellation as a failure. -/
theorem told_not_cancelled {moves : List Move} {ticket : Nat} {completion : Completion}
    (h : (initial store).play setup moves = some s) (hm : (ticket, completion) ∈ s.completions) :
    completion.outcome ≠ .failed .cancelled := by
  have hr : Reachable setup store s := ⟨moves, h⟩
  by_cases hacc : ticket ∈ s.accepted.map Job.ticket
  · obtain ⟨job, hj, rfl⟩ := List.mem_map.mp hacc
    rcases (reachable_informed hr).told job hj completion hm with ⟨result, hset⟩ | ⟨hskip, _⟩
    · exact (reachable_hushed hr _ _ _ hset).1
    · rw [hskip]
      simp
  · obtain ⟨request, _, _, haway⟩ := (play_returned h).told ticket completion hm
    rw [haway hacc]
    simp

def Reverted (s : State) : Prop :=
  ∀ job ∈ s.accepted, job.id ∈ s.cancelled → .removeLast job.request.key ∈ s.writesOf job.id

theorem writesOf_subset (h : s.trace <+: t.trace) (id : Nat) : s.writesOf id ⊆ t.writesOf id :=
  List.map_subset _ (((h.sublist.filterMap _).filter _).subset)

theorem Reverted.kept (hs : Reverted s) (hext : s.trace <+: t.trace)
    (ha : ∀ job ∈ t.accepted, job ∈ s.accepted ∨ job.id ∉ t.cancelled)
    (hcan : t.cancelled = s.cancelled) : Reverted t := by
  intro job hj hc
  rcases ha job hj with hj | hnew
  · exact writesOf_subset hext _ (hs job hj (hcan ▸ hc))
  · exact absurd hc hnew

/-- The current submission is given up. -/
theorem Reverted.abandoned (hn : Numbered s) (hslot : Slot setup s) (hs : Reverted s)
    (busy : s.current = some p) (hext : s.trace <+: t.trace) (ha : t.accepted = s.accepted)
    (hcan : t.cancelled = p.id :: s.cancelled)
    (hw : .wrote p.id (.removeLast p.key) ∈ t.trace) : Reverted t := by
  intro job hj hc
  rw [ha] at hj
  rw [hcan] at hc
  rcases List.mem_cons.mp hc with hid | hc
  · obtain ⟨-, rfl⟩ := hslot.own hn busy hj hid.symm
    have hwrote : (job.id, .removeLast job.request.key) ∈ t.writes :=
      List.mem_filterMap.mpr ⟨_, hw, rfl⟩
    exact List.mem_map.mpr ⟨_, List.mem_filter.mpr ⟨hwrote, by simp⟩, rfl⟩
  · exact writesOf_subset hext _ (hs job hj hc)

theorem Reverted.step (hr : Reachable setup store s) (ho : Orderly s) (hs : Reverted s)
    (h : Effect setup s t) : Reverted t := by
  have hext := h.trace_extends
  cases h with
  | stopped closed busy | debounced request busy =>
    exact hs.abandoned (reachable_numbered hr) (reachable_slot hr) busy hext (by simp [accepted])
      rfl (by simp [ho.undoing busy])
  | queued request now | refused request now =>
    have hnew : s.lastId + 1 ∉ s.cancelled := fun hm =>
      Nat.not_succ_le_self _ ((reachable_slot hr).issued _ hm)
    refine hs.kept hext ?_ rfl
    intro job hj
    have hj : job ∈ s.accepted ∨ job = setup.job s request now := by
      simpa [accepted, List.filterMap_cons] using hj
    rcases hj with hj | rfl
    · exact .inl hj
    · exact .inr hnew
  | worked step =>
    exact hs.kept hext (fun _ hj => .inl (by simpa [accepted, step.filterMap_eq_nil] using hj)) rfl
  | rested | discarded | generated | failed | hushed =>
    exact hs.kept hext (fun _ hj => .inl (by simpa [accepted, List.filterMap_cons] using hj)) rfl

theorem run_reverted (h : (initial store).run setup actions = some s) : Reverted s := by
  have hboth : Orderly s ∧ Reverted s :=
    reachable_initial.run_induction (P := fun s => Orderly s ∧ Reverted s)
      ⟨⟨fun _ _ hc => (nomatch hc), rfl⟩, fun _ hj => (nomatch hj)⟩
      (fun _ _ hr hs he => ⟨hs.1.step he, hs.2.step hr hs.1 he⟩) h
  exact hboth.2

/-- A submission that was cancelled wrote what it opened with, and took its user message back. -/
theorem writesOf_cancelled (h : (initial store).run setup actions = some s) (hj : job ∈ s.accepted)
    (hc : job.id ∈ s.cancelled) :
    ∃ primed, s.writesOf job.id =
      setup.entries job.request primed ++ [.removeLast job.request.key] := by
  have hr : Reachable setup store s := ⟨_, h⟩
  obtain ⟨primed, closing, hwrites, hclosing⟩ := (reachable_footprints hr).each job hj
  refine ⟨primed, ?_⟩
  have hm := run_reverted h job hj hc
  rw [hwrites] at hm ⊢
  cases hclosing with
  | nothing => cases primed <;> simp [Setup.entries] at hm
  | takenBack => rfl
  | replied told => exact absurd (generated_of_settlement told) (cancelled_silent hr hc)

/-- The branches that take nothing back are dead as long as nobody else is at the store. The worker
hears of a cancellation only if there was one, and never as a call that stopped early. A cancelled
result is never that of the current submission, whose failure is never classified as a cancellation;
it comes to nothing, and nobody is told of it. The message of a cancelled submission was taken back
when that was cancelled, and whenever a message is to be taken back it stands last. -/
theorem cancelled_never_current (h : (initial store).run setup actions = some s) :
    (∀ seconds cancelled turns r, (Race.enter cancelled).play seconds turns = some r →
      (∀ losing, r.verdict = some (.error .cancelled, losing) → r.cancelled = true) ∧
      ∀ r' losing, r.turn seconds .join = some r' → r'.verdict ≠ some (.error .cancelled, losing)) ∧
    (∀ job losing, s.worker = .ended job (.error .cancelled) losing →
      job.id ∈ s.cancelled ∧ ∀ p, s.current = some p → p.id ≠ job.id) ∧
    (∀ job failure losing p, s.worker = .ended job (.error failure) losing → s.current = some p →
      p.id = job.id → classify failure job.request.model.provider ≠ .cancelled) ∧
    (∀ id outcome, (id, .error .cancelled, outcome) ∈ s.settlements →
      id ∈ s.cancelled ∧ outcome = .skipped) ∧
    (∀ ticket completion, (ticket, completion) ∈ s.completions →
      completion.outcome ≠ .failed .cancelled) ∧
    (∀ job ∈ s.accepted, job.id ∈ s.cancelled → ∃ primed, s.writesOf job.id =
      setup.entries job.request primed ++ [.removeLast job.request.key]) ∧
    (∀ p, s.current = some p → s.store.last? p.key = some p.userMessage) ∧
    s.skippedRollbacks = [] ∧ ∀ entry ∈ s.logged, entry.level ≠ .warn := by
  have hr : Reachable setup store s := ⟨_, h⟩
  have hslot := reachable_slot hr
  have horderly := run_orderly h
  refine ⟨?_, ?_, ?_, ?_, fun _ _ => told_not_cancelled h, fun _ => writesOf_cancelled h, ?_,
    horderly.silent, fun _ => not_warned horderly.silent⟩
  · intro seconds cancelled turns r hplay
    have hfair := Race.play_fair (Race.fair_enter cancelled) hplay
    refine ⟨hfair.cancelled, ?_⟩
    intro r' losing hjoin hv
    obtain ⟨result, _, rfl⟩ := hfair.join hjoin
    cases result <;> cases hv
  · intro job losing ended
    exact ⟨hslot.interrupted job losing ended, fun p hc => hslot.not_hushed hc ended⟩
  · intro job failure losing p ended busy own he
    obtain rfl := classify_eq_cancelled he
    exact hslot.not_hushed busy ended own
  · intro id outcome hm
    obtain rfl := (reachable_hushed hr _ _ _ hm).2 rfl
    exact ⟨reachable_dismissed hr _ _ hm, rfl⟩
  · intro p busy
    exact horderly.last p.key p busy rfl

/-- A submission is cancelled while its call goes on, and the next one is current when the worker
hears of it. -/
theorem cancelled_never_current_interrupted :
    ∃ actions s job losing p, (initial .empty).run ⟨"p", compose⟩ actions = some s ∧
      s.worker = .ended job (.error .cancelled) losing ∧ s.current = some p ∧ p.id ≠ job.id ∧
      s.store.last? p.key = some p.userMessage ∧ s.skippedRollbacks = [] := by
  let request (input : String) : Request := ⟨⟨"k"⟩, input, [], ⟨.mock, "m"⟩, 0, none, none⟩
  let actions : List Action := [.submit (request "one") 0, .take 1, .cancel,
    .submit (request "two") 2, .interrupt]
  have h : (initial .empty).run ⟨"p", compose⟩ actions = some _ := rfl
  obtain ⟨_, hstale, _, _, _, _, hlast, hsilent, _⟩ := cancelled_never_current h
  obtain ⟨_, hne⟩ := hstale _ _ rfl
  exact ⟨actions, _, _, _, _, h, rfl, rfl, hne _ rfl, hlast _ rfl, hsilent⟩

end State

end Parley
