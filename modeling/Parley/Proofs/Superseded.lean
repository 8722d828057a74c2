import Parley.Proofs.Outcomes
import Parley.Proofs.Surface

namespace Parley.State

variable {setup : Setup} {store : Store} {s t : State} {job : Job}

theorem completions_surface (s : State) : s.surface.completions = s.completions := by
  refine filterMap_through .outside ?_ s
  intro e
  cases e with
  | settled id result outcome => cases outcome <;> rfl
  | _ => rfl

theorem logged_surface (s : State) : s.surface.logged = s.logged := by
  refine filterMap_through .outside ?_ s
  intro e
  cases e with
  | settled id result outcome => cases outcome <;> rfl
  | _ => rfl

/-- Settling a submission that is not current any more leaves the current one alone. -/
theorem conclude_stale {result : Except CallFailure String} {losing : Bool} {p : Pending}
    (hw : s.worker = .ended job result losing) (hc : s.current = some p) (hid : p.id ≠ job.id)
    (now : Instant) :
    ∃ u, s.conclude now = some u ∧ u.current = some p ∧ u.running = s.running ∧
      u.cancelled = s.cancelled ∧ u.queue = s.queue ∧ u.store = s.store := by
  have stale : ∀ q, s.current = some q → q.id ≠ job.id := by
    intro q hq
    rw [hc] at hq
    cases hq
    exact hid
  rw [conclude_eq hw, settle_stale job result now stale]
  exact ⟨_, rfl, hc, rfl, rfl, rfl, rfl⟩

/-- Two runs that show the same steps, whatever the calls that were given up come to, leave the same
current submission, numbers, flag and conversations, tell callers the same and log the same. Callers
of cancelled submissions are told that nothing came of them, those of timed out submissions that
time ran out, and settling an old submission leaves a newer one alone. -/
theorem superseded_calls_silent {moves moves' : List Move}
    (h : (initial store).play setup moves = some s)
    (h' : (initial store).play setup moves' = some t)
    (same : (initial store).signs setup moves = (initial store).signs setup moves') :
    (s.current = t.current ∧ s.lastId = t.lastId ∧ s.running = t.running ∧
      (∀ key, s.store.history key = t.store.history key) ∧ s.completions = t.completions ∧
      s.logged = t.logged) ∧
    (∀ job ∈ s.accepted, ∀ completion, (job.ticket, completion) ∈ s.completions →
      (job.id ∈ s.cancelled → completion.outcome = .skipped) ∧
      (job.id ∉ s.cancelled → ∀ n outcome,
        (job.id, .error (.timeout n), outcome) ∈ s.settlements →
        completion.outcome = .failed (.timeout n))) ∧
    ∀ job result losing p now, s.worker = .ended job result losing → s.current = some p →
      p.id ≠ job.id → ∃ u, s.conclude now = some u ∧ u.current = some p ∧
        u.running = s.running ∧ u.cancelled = s.cancelled ∧ u.queue = s.queue ∧
        u.store = s.store := by
  have hr : Reachable setup store s := ⟨moves, h⟩
  have hsurface : s.surface = t.surface := by
    have hs := replay_signs h
    rw [same, replay_signs h'] at hs
    exact (Option.some.inj hs).symm
  refine ⟨⟨?_, ?_, ?_, ?_, ?_, ?_⟩, ?_, ?_⟩
  · show s.surface.current = t.surface.current
    rw [hsurface]
  · show s.surface.lastId = t.surface.lastId
    rw [hsurface]
  · show s.surface.running = t.surface.running
    rw [hsurface]
  · intro key
    show s.surface.store.history key = t.surface.store.history key
    rw [hsurface]
  · rw [← completions_surface s, hsurface, completions_surface]
  · rw [← logged_surface s, hsurface, logged_surface]
  · intro job hj completion hm
    exact ⟨fun hc => told_skipped hr hj hc hm,
      fun hc n outcome hset => told_timeout hr hj hc hset hm⟩
  · intro job result losing p now hw hc hid
    exact conclude_stale hw hc hid now

/-- A submission is cancelled while its call goes on, and the worker may see either end first. -/
theorem superseded_calls_silent_either_first :
    ∃ before after s t,
      (initial .empty).play ⟨"p", compose⟩ (before ++ .own (.finish (.ok "late")) :: after) =
        some s ∧
      (initial .empty).play ⟨"p", compose⟩ (before ++ .own .interrupt :: after) = some t ∧
      s.store.history ⟨"k"⟩ = t.store.history ⟨"k"⟩ ∧ s.completions = t.completions := by
  let request (input : String) : Request := ⟨⟨"k"⟩, input, [], ⟨.mock, "m"⟩, 0, none, none⟩
  let before : List Move := [.own (.submit (request "one") 0), .own (.take 1), .own .cancel,
    .own (.submit (request "two") 2)]
  let after : List Move := [.own (.conclude 3), .own (.audit (some ⟨0, 0, 0⟩)), .own .deliver]
  have h : (initial .empty).play ⟨"p", compose⟩
    (before ++ .own (.finish (.ok "late")) :: after) = some _ := rfl
  have h' : (initial .empty).play ⟨"p", compose⟩
    (before ++ .own .interrupt :: after) = some _ := rfl
  let shown : List Sign := before.map .made ++ [.discards, .audits true, .made (.own .deliver)]
  have hs : (initial .empty).signs ⟨"p", compose⟩
    (before ++ .own (.finish (.ok "late")) :: after) = shown := rfl
  have hs' : (initial .empty).signs ⟨"p", compose⟩
    (before ++ .own .interrupt :: after) = shown := rfl
  obtain ⟨⟨_, _, _, hstore, hcompletions, _⟩, _⟩ :=
    superseded_calls_silent h h' (hs.trans hs'.symm)
  exact ⟨before, after, _, _, h, h', hstore _, hcompletions⟩

end Parley.State
