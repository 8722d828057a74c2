import Parley.Proofs.Perspectives

namespace Parley

/-- An event as it shows: nothing of the end of a call, no token counts, and of a result that came
to nothing only that it did. -/
def Event.seen? : Event → Option Event
  | returned _ _ => none
  | settled id _ .skipped => some (settled id (.error .cancelled) .skipped)
  | audited id audit => some (audited id { audit with tokens := ⟨0, 0, 0⟩ })
  | e => some e

/-- The worker as it shows. It is not seen whether a call goes on. -/
def Worker.surface : Worker → Worker
  | calling job _ | ended job _ _ => calling job 0
  | settled job outcome _ => settled job outcome false
  | audited job outcome _ => audited job outcome false
  | idle | draining _ => idle
  | gone _ => gone none

/-- What shows of a step that shows at all. -/
inductive Sign
  | made (m : Move)
  | settles (result : Except CallFailure String) (now : Instant)
  | discards
  | audits (told : Bool)

namespace State

def surface (s : State) : State :=
  { s with worker := s.worker.surface, trace := s.trace.filterMap Event.seen? }

/-- A result shows when it is settled, if its submission is current then. -/
def sign? (s : State) : Move → Option Sign
  | .own (.finish _) | .own (.expire _) | .own .interrupt | .own (.drained _) => none
  | .own (.conclude now) =>
    match s.worker with
    | .ended job result _ =>
      if s.current.map Pending.id = some job.id then some (.settles result now)
      else some .discards
    | _ => none
  | .own (.audit tokens) => some (.audits tokens.isSome)
  | m => some (.made m)

def signs (setup : Setup) (s : State) : List Move → List Sign
  | [] => []
  | m :: rest =>
    (s.sign? m).toList ++ ((s.move setup m).map (fun t => t.signs setup rest)).getD []

def ending (s : State) (job : Job) (result : Except CallFailure String) : State :=
  { s with worker := .ended job result false }

/-- The call in the worker's hands ends in `result` and is settled at once. -/
def settleCall (s : State) (result : Except CallFailure String) (now : Instant) : Option State :=
  match s.worker with
  | .calling job _ => (s.ending job result).conclude now
  | _ => none

/-- The step behind a sign, made on the surface. -/
def react (setup : Setup) (s : State) : Sign → Option State
  | .made m => s.move setup m
  | .settles result now => s.settleCall result now
  | .discards => s.settleCall (.error .cancelled) 0
  | .audits told => s.audit (if told then some ⟨0, 0, 0⟩ else none)

/-- The surface after a run, made of its signs alone. -/
def replay (setup : Setup) (s : State) : List Sign → Option State
  | [] => some s
  | sign :: rest => (s.react setup sign).bind (fun t => replay setup t.surface rest)

end State

variable {setup : Setup}

@[simp] theorem Worker.surface_surface (worker : Worker) :
    worker.surface.surface = worker.surface := by
  cases worker <;> rfl

@[simp] theorem Worker.surface_gone (orphan : Option Job) :
    (gone orphan).surface = gone none := rfl

@[simp] theorem Worker.isGone_surface (worker : Worker) :
    worker.surface.isGone = worker.isGone := by
  cases worker <;> rfl

@[simp] theorem Worker.undelivered?_surface (worker : Worker) :
    worker.surface.undelivered? = worker.undelivered? := by
  cases worker <;> rfl

theorem Event.seen_seen (e : Event) : e.seen?.bind Event.seen? = e.seen? := by
  cases e with
  | settled id result outcome => cases outcome <;> rfl
  | _ => rfl

def Perspective.outside : Perspective where
  worker := Worker.surface
  event := Event.seen?
  worker_worker := Worker.surface_surface
  event_event := Event.seen_seen
  isGone_worker := Worker.isGone_surface

@[simp] theorem Event.filterMap_seen (events : List Event) :
    (events.filterMap Event.seen?).filterMap Event.seen? = events.filterMap Event.seen? :=
  Perspective.outside.filterMap_event events

namespace State

variable {s t : State} {m : Move}

/-- A step that does not show leaves the surface as it is. -/
theorem surface_hidden (hm : s.sign? m = none) (h : s.move setup m = some t) :
    t.surface = s.surface := by
  cases m with
  | foreign change => cases hm
  | own action =>
    cases action with
    | finish result =>
      simp only [move, perform, finish] at h
      split at h
      · rename_i job started hw
        cases h
        simp [surface, emit, hw, Worker.surface, List.filterMap_cons, Event.seen?]
      · cases h
    | expire now =>
      simp only [move, perform, expire] at h
      split at h
      · rename_i job started hw
        split at h
        · cases h
          simp [surface, hw, Worker.surface]
        · cases h
      · cases h
    | interrupt =>
      simp only [move, perform, interrupt] at h
      split at h
      · rename_i job started hw
        split at h
        · cases h
          simp [surface, hw, Worker.surface]
        · cases h
      · cases h
    | drained reply =>
      simp only [move, perform, drained] at h
      split at h
      · rename_i job hw
        cases h
        simp [surface, emit, hw, Worker.surface, List.filterMap_cons, Event.seen?]
      · rename_i job hw
        cases h
        simp [surface, emit, hw, Worker.surface, List.filterMap_cons, Event.seen?]
      · cases h
    | conclude now =>
      simp only [move, perform, conclude] at h
      split at h
      · rename_i job result losing hw
        simp only [sign?, hw] at hm
        split at hm <;> cases hm
      · cases h
    | _ => cases hm

theorem surface_take {now : Instant} (h : s.take now = some t) :
    ∃ u, s.surface.take now = some u ∧ u.surface = t.surface := by
  unfold take at h
  split at h
  · rename_i job rest hw hq
    have hs : s.surface.worker = .idle := by rw [surface, hw]; rfl
    have hsq : s.surface.queue = job :: rest := hq
    simp only [take, hs, hsq]
    dsimp only at h
    split at h
    · rename_i hc
      cases h
      refine ⟨_, if_pos hc, ?_⟩
      simp [surface, Worker.surface]
    · rename_i hc
      cases h
      refine ⟨_, if_neg hc, ?_⟩
      simp [surface, emit, Worker.surface]
  · cases h

theorem surface_tearDown (h : s.tearDown = some t) :
    ∃ u, s.surface.tearDown = some u ∧ u.surface = t.surface := by
  unfold tearDown at h
  split at h
  · cases h
  · rename_i hg
    cases h
    refine ⟨_, if_neg (by simpa [surface] using hg), ?_⟩
    simp [surface]

theorem surface_deliver (h : s.deliver = some t) :
    ∃ u, s.surface.deliver = some u ∧ u.surface = t.surface := by
  unfold deliver at h
  split at h
  · rename_i job outcome losing hw
    cases h
    have hs : s.surface.worker = .audited job outcome false := by rw [surface, hw]; rfl
    simp only [deliver, hs]
    refine ⟨_, rfl, ?_⟩
    cases losing <;> simp [surface, emit, Worker.surface]
  · cases h

theorem surface_runOut (h : s.runOut = some t) :
    ∃ u, s.surface.runOut = some u ∧ u.surface = t.surface := by
  unfold runOut at h
  split at h
  · rename_i hw hq
    have hs : s.surface.worker = .idle := by rw [surface, hw]; rfl
    have hsq : s.surface.queue = [] := hq
    simp only [runOut, hs, hsq]
    split at h
    · rename_i hc
      cases h
      refine ⟨_, if_pos hc, ?_⟩
      simp [surface, hq]
    · cases h
  · cases h

theorem surface_audit {tokens : Option TokenUsage} (h : s.audit tokens = some t) :
    ∃ u, s.surface.audit (if tokens.isSome then some ⟨0, 0, 0⟩ else none) = some u ∧
      u.surface = t.surface := by
  unfold audit at h
  split at h
  · rename_i job outcome losing hw
    have hs : s.surface.worker = .settled job outcome false := by rw [surface, hw]; rfl
    cases tokens with
    | none =>
      obtain ⟨u, hu, hut⟩ := surface_tearDown h
      exact ⟨u, by simp only [audit, hs]; exact hu, hut⟩
    | some tokens =>
      cases h
      simp only [audit, hs]
      refine ⟨_, rfl, ?_⟩
      simp [surface, emit, Worker.surface, Event.seen?]
  · cases h

theorem settleCall_eq {job : Job} {result : Except CallFailure String} {losing : Bool}
    (hw : s.worker = .ended job result losing) (result' : Except CallFailure String)
    (now : Instant) :
    s.surface.settleCall result' now = (s.surface.ending job result').conclude now := by
  have hs : s.surface.worker = .calling job 0 := by rw [surface, hw]; rfl
  simp only [settleCall, hs]

theorem surface_settles {job : Job} {result : Except CallFailure String} {losing : Bool}
    {p : Pending} {now : Instant} (hw : s.worker = .ended job result losing)
    (hc : s.current = some p) (hid : p.id = job.id) (h : s.conclude now = some t) :
    ∃ u, s.surface.settleCall result now = some u ∧ u.surface = t.surface := by
  rw [conclude_eq hw] at h
  cases h
  rw [settleCall_eq hw, conclude_eq rfl]
  refine ⟨_, rfl, ?_⟩
  cases result with
  | ok text =>
    rw [settle_reply job text now hc hid,
      settle_reply (s := s.surface.ending job _) job text now hc hid]
    simp [surface, ending, Worker.surface]
  | error failure =>
    by_cases hf : failure = .cancelled
    · subst hf
      rw [settle_cancelled job now hc hid,
        settle_cancelled (s := s.surface.ending job _) job now hc hid]
      simp [surface, ending, Worker.surface]
    · rw [settle_failure job failure now hc hid hf,
        settle_failure (s := s.surface.ending job _) job failure now hc hid hf]
      simp [surface, ending, Worker.surface]

theorem surface_discards {job : Job} {result : Except CallFailure String} {losing : Bool}
    {now : Instant} (hw : s.worker = .ended job result losing)
    (stale : ∀ p, s.current = some p → p.id ≠ job.id) (h : s.conclude now = some t) :
    ∃ u, s.surface.settleCall (.error .cancelled) 0 = some u ∧ u.surface = t.surface := by
  rw [conclude_eq hw, settle_stale job result now stale] at h
  cases h
  rw [settleCall_eq hw, conclude_eq rfl,
    settle_stale (s := s.surface.ending job _) job (.error .cancelled) 0 stale]
  refine ⟨_, rfl, ?_⟩
  simp [surface, ending, emit, Worker.surface, Event.seen?]

/-- A step that shows does on the surface what its sign says. -/
theorem surface_shown {sign : Sign} (hm : s.sign? m = some sign) (h : s.move setup m = some t) :
    ∃ u, s.surface.react setup sign = some u ∧ u.surface = t.surface := by
  cases m with
  | foreign change =>
    cases hm
    cases h
    exact ⟨_, rfl, by simp [surface]⟩
  | own action =>
    cases action with
    | submit request now =>
      cases hm
      exact through_open .outside (f := fun s => s.submit setup request now)
        (through_submit .outside request now) h
    | cancel =>
      cases hm
      exact through_open .outside (f := cancelCurrent) (through_cancelCurrent .outside) h
    | drop =>
      cases hm
      exact through_open .outside (f := drop) (through_drop .outside) h
    | conclude now =>
      cases hw : s.worker with
      | ended job result losing =>
        simp only [sign?, hw] at hm
        split at hm
        · rename_i hown
          cases hm
          obtain ⟨p, hc, hid⟩ := Option.map_eq_some_iff.mp hown
          exact surface_settles hw hc hid h
        · rename_i hstale
          cases hm
          refine surface_discards hw ?_ h
          intro p hc hid
          exact hstale (by rw [hc, ← hid]; rfl)
      | _ => simp [sign?, hw] at hm
    | audit tokens =>
      cases hm
      exact surface_audit h
    | take now =>
      cases hm
      exact surface_take h
    | deliver =>
      cases hm
      exact surface_deliver h
    | runOut =>
      cases hm
      exact surface_runOut h
    | tearDown =>
      cases hm
      exact surface_tearDown h
    | finish | expire | interrupt | drained => cases hm

/-- The surface of a run follows from its signs. -/
theorem replay_signs {moves : List Move} (h : s.play setup moves = some t) :
    s.surface.replay setup (s.signs setup moves) = some t.surface := by
  induction moves generalizing s with
  | nil =>
    cases h
    rfl
  | cons m rest ih =>
    obtain ⟨u, hu, hrest⟩ := Option.bind_eq_some_iff.mp h
    have hsigns : s.signs setup (m :: rest) = (s.sign? m).toList ++ u.signs setup rest := by
      rw [signs, hu]
      rfl
    rw [hsigns]
    cases hm : s.sign? m with
    | none =>
      rw [← surface_hidden hm hu]
      exact ih hrest
    | some sign =>
      obtain ⟨v, hv, hvu⟩ := surface_shown hm hu
      simp only [Option.toList_some, List.cons_append, List.nil_append, replay, hv,
        Option.bind_some, hvu]
      exact ih hrest

end State

end Parley
