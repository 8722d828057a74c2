import Parley.Orchestrator.Action
import Parley.Orchestrator.Race

namespace Parley.Race

variable {seconds : Nat} {r r' : Race} {turns : List Turn} {a : Turn}

/-- As long as there is no verdict the call was not told to stop, and it stops only if it was told.
Of a cancellation the worker hears only if there was one. -/
structure Fair (r : Race) : Prop where
  unstopped : r.verdict = none → r.stop = false
  told : r.progress = .stopped → r.stop = true
  cancelled : ∀ losing, r.verdict = some (.error .cancelled, losing) → r.cancelled = true

theorem fair_enter (cancelled : Bool) : Fair (enter cancelled) := by
  cases cancelled with
  | false => exact ⟨fun _ => rfl, fun h => (nomatch h), fun _ h => (nomatch h)⟩
  | true => exact ⟨fun h => (nomatch h), fun h => (nomatch h), fun _ _ => rfl⟩

theorem ends_eq {progress : Progress} (h : r.ends progress = some r') :
    r.progress = .going ∧ r' = { r with progress := progress } := by
  unfold ends at h
  split at h
  · rename_i hp
    exact ⟨hp, (Option.some.inj h).symm⟩
  · cases h

theorem loses_eq {failure : CallFailure} (h : r.loses failure = some r') :
    r.verdict = none ∧ r' = { r with stop := true, verdict := some (.error failure, true) } := by
  unfold loses at h
  split at h
  · rename_i hv
    exact ⟨hv, (Option.some.inj h).symm⟩
  · cases h

/-- The worker sees that the call is over. It did not stop, so it replied or crashed. -/
theorem Fair.join (hr : Fair r) (h : r.turn seconds .join = some r') :
    ∃ result : Except ModelError String, r.verdict = none ∧
      r' = { r with verdict := some (result.mapError .model, false) } := by
  simp only [Race.turn] at h
  split at h
  · rename_i result hv hp
    cases h
    cases hprogress : r.progress with
    | unsent | going => simp [hprogress, heard?] at hp
    | replied result' =>
      rw [hprogress] at hp
      exact ⟨result', hv, by rw [← Option.some.inj hp]⟩
    | stopped =>
      have hstop := hr.told hprogress
      rw [hr.unstopped hv] at hstop
      cases hstop
    | crashed text =>
      rw [hprogress] at hp
      exact ⟨.error (.aborted text), hv, by rw [← Option.some.inj hp]; rfl⟩
  · cases h

theorem Fair.turn (hr : Fair r) (h : r.turn seconds a = some r') : Fair r' := by
  cases a with
  | cancel =>
    cases h
    exact ⟨hr.unstopped, hr.told, fun _ _ => rfl⟩
  | ring =>
    cases h
    exact ⟨hr.unstopped, hr.told, hr.cancelled⟩
  | reply result | crash text =>
    obtain ⟨_, rfl⟩ := ends_eq h
    exact ⟨hr.unstopped, fun h => (nomatch h), hr.cancelled⟩
  | heed =>
    simp only [Race.turn] at h
    split at h
    · rename_i hstop
      obtain ⟨_, rfl⟩ := ends_eq h
      exact ⟨hr.unstopped, fun _ => hstop, hr.cancelled⟩
    · cases h
  | join =>
    obtain ⟨result, _, rfl⟩ := hr.join h
    refine ⟨fun h => (nomatch h), hr.told, ?_⟩
    intro losing hv
    cases result <;> cases hv
  | yield =>
    simp only [Race.turn] at h
    split at h
    · rename_i hcancelled
      obtain ⟨_, rfl⟩ := loses_eq h
      exact ⟨fun h => (nomatch h), fun _ => rfl, fun _ _ => hcancelled⟩
    · cases h
  | expire =>
    simp only [Race.turn] at h
    split at h
    · obtain ⟨_, rfl⟩ := loses_eq h
      exact ⟨fun h => (nomatch h), fun _ => rfl, fun _ hv => by cases hv⟩
    · cases h

theorem play_fair (hr : Fair r) (h : r.play seconds turns = some r') : Fair r' := by
  induction turns generalizing r with
  | nil =>
    cases h
    exact hr
  | cons first rest ih =>
    obtain ⟨next, hnext, hrest⟩ := Option.bind_eq_some_iff.mp h
    exact ih (hr.turn hnext) hrest

inductive Beside (r : Race) (job : Job) : Worker → Prop
  | calling {started} (undecided : r.verdict = none) : Beside r job (.calling job started)
  | ended {result losing} (decided : r.verdict = some (result, losing)) :
      Beside r job (.ended job result losing)

variable {setup : Setup} {s : State} {job : Job} {now started : Instant}

/-- A race begins when the worker takes a job. -/
theorem beside_take {rest : List Job} (idle : s.worker = .idle) (next : s.queue = job :: rest) :
    ∃ t, s.take now = some t ∧ Beside (enter (s.isCancelled job)) job t.worker := by
  cases hc : s.isCancelled job with
  | true =>
    have htake : s.take now = some { s with
        queue := rest
        worker := .ended job (.error .cancelled) false } := by
      simp_all [State.take, State.isCancelled]
    exact ⟨_, htake, .ended rfl⟩
  | false =>
    have htake : s.take now =
        some ({ s with queue := rest, worker := .calling job now }.emit (.called job.id)) := by
      simp_all [State.take, State.isCancelled]
    exact ⟨_, htake, .calling rfl⟩

/-- A turn without a verdict is nothing to the worker. -/
theorem Beside.kept {worker : Worker} (h : Beside r job worker) (hv : r'.verdict = r.verdict) :
    Beside r' job worker := by
  cases h with
  | calling undecided => exact .calling (hv.trans undecided)
  | ended decided => exact .ended (hv.trans decided)

/-- Where there is no verdict yet the worker waits for the call. -/
theorem Beside.waits (h : Beside r job s.worker) (undecided : r.verdict = none) :
    ∃ started, s.worker = .calling job started := by
  cases hw : s.worker with
  | calling other started =>
    rw [hw] at h
    cases h
    exact ⟨started, rfl⟩
  | ended other result losing =>
    rw [hw] at h
    cases h with
    | ended decided => cases undecided.symm.trans decided
  | _ =>
    rw [hw] at h
    cases h

/-- Every turn of the race is a step of the worker, or nothing to it. The race knows of a
cancellation only if there was one, and that time is over only if it is. -/
theorem Fair.beside_turn (hr : Fair r) (hb : Beside r job s.worker)
    (h : r.turn job.request.effectiveTimeout a = some r')
    (cancelled : r.cancelled = true → s.isCancelled job = true)
    (late : r.late = true → ∀ started, s.worker = .calling job started →
      State.deadline job started ≤ now) :
    ∃ t, (t = s ∨ ∃ action, s.perform setup action = some t) ∧ Beside r' job t.worker := by
  cases a with
  | cancel | ring =>
    cases h
    exact ⟨s, .inl rfl, hb.kept rfl⟩
  | reply result | crash text =>
    obtain ⟨_, rfl⟩ := ends_eq h
    exact ⟨s, .inl rfl, hb.kept rfl⟩
  | heed =>
    simp only [Race.turn] at h
    split at h
    · obtain ⟨_, rfl⟩ := ends_eq h
      exact ⟨s, .inl rfl, hb.kept rfl⟩
    · cases h
  | join =>
    obtain ⟨result, undecided, rfl⟩ := hr.join h
    obtain ⟨started, hw⟩ := hb.waits undecided
    have hfinish : s.perform setup (.finish result) =
        some ({ s with worker := .ended job (result.mapError .model) false }.emit
          (.returned job.id (some result))) := by
      simp only [State.perform, State.finish, hw]
    exact ⟨_, .inr ⟨_, hfinish⟩, .ended rfl⟩
  | yield =>
    simp only [Race.turn] at h
    split at h
    · rename_i hc
      obtain ⟨undecided, rfl⟩ := loses_eq h
      obtain ⟨started, hw⟩ := hb.waits undecided
      have hinterrupt : s.perform setup .interrupt =
          some { s with worker := .ended job (.error .cancelled) true } := by
        simp only [State.perform, State.interrupt, hw, if_pos (cancelled hc)]
      exact ⟨_, .inr ⟨_, hinterrupt⟩, .ended rfl⟩
    · cases h
  | expire =>
    simp only [Race.turn] at h
    split at h
    · rename_i hl
      obtain ⟨undecided, rfl⟩ := loses_eq h
      obtain ⟨started, hw⟩ := hb.waits undecided
      have hexpire : s.perform setup (.expire now) =
          some { s with
            worker := .ended job (.error (.timeout job.request.effectiveTimeout)) true } := by
        simp only [State.perform, State.expire, hw, if_pos (late hl started hw)]
      exact ⟨_, .inr ⟨_, hexpire⟩, .ended rfl⟩
    · cases h

end Parley.Race
