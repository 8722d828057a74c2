import Parley.Orchestrator.Team
import Parley.Proofs.Writes

namespace Parley

variable {owned : ConversationKey → Bool} {key : ConversationKey} {store : Store} {setup : Setup}

namespace Store

/-- The conversations under the keys that are owned. -/
def restrict (owned : ConversationKey → Bool) (s : Store) : Store :=
  ⟨s.conversations.filter (fun c => owned c.1)⟩

theorem restrict_put (ms : List Message) (s : Store) :
    restrict owned ⟨put key ms s.conversations⟩ =
      if owned key then ⟨put key ms (s.restrict owned).conversations⟩ else s.restrict owned := by
  obtain ⟨cs⟩ := s
  simp only [restrict]
  induction cs with
  | nil => cases hk : owned key <;> simp [put, hk]
  | cons c cs ih =>
    obtain ⟨k, old⟩ := c
    by_cases heq : key = k
    · subst heq
      cases hk : owned key <;> simp [put, hk]
    · cases hk : owned key <;> cases hown : owned k <;> simp_all [put]

@[simp] theorem history_restrict (s : Store) :
    (s.restrict owned).history key = if owned key then s.history key else [] := by
  obtain ⟨cs⟩ := s
  simp only [restrict, history]
  induction cs with
  | nil => simp
  | cons c cs ih =>
    obtain ⟨k, old⟩ := c
    by_cases heq : key = k
    · subst heq
      cases hown : owned key <;> simp_all
    · have hne : (key == k) = false := beq_eq_false_iff_ne.mpr heq
      cases hown : owned k <;> simp [List.lookup_cons, hown, hne, ih]

theorem last?_restrict (hk : owned key = true) :
    (store.restrict owned).last? key = store.last? key := by
  simp [last?, hk]

theorem isEmpty_restrict (hk : owned key = true) :
    (store.restrict owned).isEmpty key = store.isEmpty key := by
  simp [isEmpty, hk]

theorem append_restrict {m : Message} (hk : owned key = true) :
    (store.restrict owned).append key m = (store.append key m).restrict owned := by
  simp only [append, history_restrict, restrict_put, hk, if_true]

theorem removeLast_restrict (hk : owned key = true) :
    (store.restrict owned).removeLast key = (store.removeLast key).restrict owned := by
  simp only [removeLast, last?_restrict hk, history_restrict, hk, if_true]
  split
  · rw [restrict_put, if_pos hk]
  · rfl

/-- A change of another conversation goes unnoticed. -/
theorem restrict_apply_of_not_owned {change : Write} (hk : owned change.key = false) :
    (store.apply change).restrict owned = store.restrict owned := by
  cases change with
  | append k m => exact (restrict_put _ store).trans (if_neg (Bool.eq_false_iff.mp hk))
  | removeLast k =>
    simp only [apply, removeLast]
    split
    · exact (restrict_put _ store).trans (if_neg (Bool.eq_false_iff.mp hk))
    · rfl
  | clear k =>
    have hk : owned k = false := hk
    simp only [apply, clear, restrict, List.filter_filter]
    refine congrArg mk (List.filter_congr (fun c _ => ?_))
    by_cases heq : c.1 = k <;> simp [heq, hk]

theorem restrict_applyAll_of_not_owned {changes : List (Nat × Write)}
    (hk : ∀ change ∈ changes, owned change.2.key = false) :
    (store.applyAll changes).restrict owned = store.restrict owned := by
  induction changes generalizing store with
  | nil => rfl
  | cons change rest ih =>
    exact (ih (fun other ho => hk other (List.mem_cons_of_mem _ ho))).trans
      (restrict_apply_of_not_owned (hk change List.mem_cons_self))

end Store

theorem Pending.undo_restrict {p : Pending} (hk : owned p.key = true) :
    p.undo (store.restrict owned) = (p.undo store).restrict owned := by
  unfold undo
  rw [Store.last?_restrict hk]
  split
  · exact Store.removeLast_restrict hk
  · rfl

theorem Pending.undoing_restrict {p : Pending} (hk : owned p.key = true) :
    p.undoing (store.restrict owned) = p.undoing store := by
  rw [undoing, undoing, Store.last?_restrict hk]

theorem Setup.opening_restrict {request : Request} (hk : owned request.key = true) :
    setup.opening (store.restrict owned) request = setup.opening store request := by
  rw [opening, opening, Store.isEmpty_restrict hk]

theorem Setup.opened_restrict {request : Request} (hk : owned request.key = true) :
    setup.opened (store.restrict owned) request = (setup.opened store request).restrict owned := by
  rw [opened, opened, opening_restrict hk]
  generalize setup.opening store request = messages
  induction messages generalizing store with
  | nil => rfl
  | cons m rest ih =>
    rw [List.foldl_cons, List.foldl_cons, ← ih, Store.append_restrict hk]

theorem Setup.key_entries {request : Request} {primed : Bool} {change : Write}
    (h : change ∈ setup.entries request primed) : change.key = request.key := by
  rcases List.mem_append.mp h with h | h
  · split at h
    · rw [List.mem_singleton.mp h]
      rfl
    · cases h
  · rw [List.mem_singleton.mp h]
    rfl

namespace State

variable {s t : State} {request : Request} {now : Instant} {p : Pending} {job : Job}
  {result : Except CallFailure String}

/-- The state of an orchestrator that knows its own conversations only. -/
def within (owned : ConversationKey → Bool) (s : State) : State :=
  { s with store := s.store.restrict owned }

/-- The current submission is to a conversation that is owned. -/
def Homely (owned : ConversationKey → Bool) (s : State) : Prop :=
  ∀ p, s.current = some p → owned p.key = true

theorem abandon_within (hk : owned p.key = true) :
    (s.within owned).abandon p = (s.abandon p).within owned := by
  rw [abandon_eq, abandon_eq]
  simp only [within, Pending.undo_restrict hk, Pending.undoing_restrict hk]

theorem settle_within (hs : s.Homely owned) :
    (s.within owned).settle job result now =
      ((s.settle job result now).1.within owned, (s.settle job result now).2) := by
  by_cases hown : ∃ p, s.current = some p ∧ p.id = job.id
  · obtain ⟨p, hc, hid⟩ := hown
    have hk := hs p hc
    cases result with
    | ok text =>
      rw [settle_reply (s := s.within owned) job text now hc hid, settle_reply job text now hc hid]
      simp only [within, Store.append_restrict hk]
    | error failure =>
      by_cases hf : failure = .cancelled
      · subst hf
        rw [settle_cancelled (s := s.within owned) job now hc hid, settle_cancelled job now hc hid]
        rfl
      · rw [settle_failure (s := s.within owned) job failure now hc hid hf,
          settle_failure job failure now hc hid hf]
        simp only [within, Pending.undo_restrict hk, Pending.undoing_restrict hk]
  · have hstale : ∀ p, s.current = some p → p.id ≠ job.id :=
      fun p hc hid => hown ⟨p, hc, hid⟩
    rw [settle_stale (s := s.within owned) job result now hstale,
      settle_stale job result now hstale]
    rfl

theorem job_within (hk : owned request.key = true) :
    setup.job (s.within owned) request now = setup.job s request now := by
  simp only [Setup.job, within, Setup.opened_restrict hk, Store.history_restrict, hk, if_true]

theorem admitted_within (hk : owned request.key = true) :
    (s.within owned).admitted setup request now = (s.admitted setup request now).within owned := by
  have hjob := @job_within owned setup s request now hk
  simp only [admitted, Setup.acceptance, hjob]
  simp only [within, Setup.opened_restrict hk, Setup.opening_restrict hk]

theorem submit_within (hs : s.Homely owned) (hk : owned request.key = true) :
    (s.within owned).submit setup request now = (s.submit setup request now).within owned := by
  cases hc : s.current with
  | some p =>
    have hp := hs p hc
    rw [submit_busy (s := s.within owned) hc, submit_busy hc, abandon_eq, abandon_eq]
    simp only [within, emit, Pending.undo_restrict hp, Pending.undoing_restrict hp]
  | none =>
    rw [submit_idle (s := s.within owned) hc, submit_idle hc]
    rw [accept_eq (s := s.within owned), accept_eq, admitted_within hk, job_within hk]
    have hown : (s.admitted setup request now).Homely owned := by
      intro p hp
      cases hp
      exact hk
    rw [settle_within hown]
    cases hw : s.worker.isGone with
    | false => simp [within, hw]
    | true => simp [within, hw, emit]

theorem cancelCurrent_within (hs : s.Homely owned) :
    (s.within owned).cancelCurrent = s.cancelCurrent.within owned := by
  cases hc : s.current with
  | none => simp [cancelCurrent, within, hc]
  | some p =>
    have hcurrent : (s.within owned).current = some p := hc
    simp only [cancelCurrent, hc, hcurrent, abandon_within (hs p hc)]

theorem tearDown_within : (s.within owned).tearDown = s.tearDown.map (within owned) := by
  have hworker : (s.within owned).worker = s.worker := rfl
  simp only [tearDown, hworker]
  split <;> rfl

/-- Over its own conversations an orchestrator steps as it does over the whole store. -/
theorem perform_within {action : Action} (hs : s.Homely owned)
    (hk : ∀ request now, action = .submit request now → owned request.key = true) :
    (s.within owned).perform setup action = (s.perform setup action).map (within owned) := by
  have hclosed : (s.within owned).closed = s.closed := rfl
  have hworker : (s.within owned).worker = s.worker := rfl
  have hqueue : (s.within owned).queue = s.queue := rfl
  cases action with
  | submit request now =>
    simp only [perform, hclosed, submit_within hs (hk request now rfl)]
    split <;> rfl
  | cancel =>
    simp only [perform, hclosed, cancelCurrent_within hs]
    split <;> rfl
  | drop =>
    simp only [perform, drop, hclosed, cancelCurrent_within hs]
    split <;> rfl
  | conclude now =>
    simp only [perform]
    cases hw : s.worker with
    | ended job result losing =>
      rw [conclude_eq (s := s.within owned) hw, conclude_eq hw, settle_within hs]
      rfl
    | _ => simp [conclude, within, hw]
  | take now =>
    cases hw : s.worker with
    | idle =>
      cases hq : s.queue with
      | nil => simp [perform, take, within, hw, hq]
      | cons job rest =>
        by_cases hc : job.id ∈ s.cancelled <;>
          simp [perform, take, isCancelled, within, emit, hw, hq, hc]
    | _ => simp [perform, take, within, hw]
  | finish result =>
    simp only [perform, finish, hworker]
    split <;> rfl
  | expire now =>
    simp only [perform, expire, hworker]
    split
    · split <;> rfl
    · rfl
  | interrupt =>
    cases hw : s.worker with
    | calling job started =>
      by_cases hc : job.id ∈ s.cancelled <;>
        simp [perform, interrupt, isCancelled, within, hw, hc]
    | _ => simp [perform, interrupt, within, hw]
  | audit tokens =>
    simp only [perform, audit, hworker, tearDown_within]
    split
    · split <;> rfl
    · rfl
  | deliver =>
    simp only [perform, deliver, hworker]
    split <;> rfl
  | drained reply =>
    simp only [perform, drained, hworker]
    split <;> rfl
  | runOut =>
    simp only [perform, runOut, hworker, hqueue, hclosed]
    split
    · split <;> rfl
    · rfl
  | tearDown => exact tearDown_within

theorem Homely.step {action : Action} (hs : s.Homely owned) (h : s.perform setup action = some t)
    (hk : ∀ request now, action = .submit request now → owned request.key = true) :
    t.Homely owned := by
  intro p hc
  rcases perform_current h hc with hc | ⟨request, now, rfl, hkey⟩
  · exact hs p hc
  · exact hkey ▸ hk request now rfl

/-- A step changes no conversation but that of the current submission and of the one it makes. -/
theorem Touches.homely {action : Action} {changes : List (Nat × Write)}
    (hs : s.Homely owned)
    (hk : ∀ request now, action = .submit request now → owned request.key = true)
    (h : Touches setup s action t changes) : ∀ change ∈ changes, owned change.2.key = true := by
  intro change hm
  have hreversal : ∀ p, s.current = some p →
      change ∈ Write.onBehalf p.id (p.reversal s.store) → owned change.2.key = true := by
    intro p hc hm
    rw [Pending.eq_of_mem_reversal hm]
    exact hs p hc
  cases h with
  | @opened request now t idle accepted =>
    obtain ⟨w, hw, rfl⟩ := List.mem_map.mp hm
    exact Setup.key_entries hw ▸ hk request now rfl
  | @refused request now t idle accepted =>
    obtain ⟨w, hw, rfl⟩ := List.mem_map.mp hm
    rcases List.mem_append.mp hw with hw | hw
    · exact Setup.key_entries hw ▸ hk request now rfl
    · rw [List.mem_singleton.mp hw]
      exact hk request now rfl
  | debounced busy accepted => exact hreversal _ busy hm
  | givenUp other busy past accepted => exact hreversal _ busy hm
  | replied other busy past accepted =>
    rw [List.mem_singleton.mp hm]
    exact hs _ busy
  | nothing other accepted => cases hm

end State

namespace Team

variable {ι : Type} [DecidableEq ι] {setups : ι → Setup} {c d : Team ι} {i : ι} {action : Action}
  {owns : ι → ConversationKey → Bool} {steps : List (ι × Action)}

/-- A step is one of the member that takes it. The others see nothing but its store. -/
theorem perform_view (h : c.perform setups i action = some d) :
    (c.view i).perform (setups i) action = some (d.view i) ∧
      ∀ j, j ≠ i → d.view j = { c.view j with store := d.store } := by
  obtain ⟨t, ht, rfl⟩ := Option.map_eq_some_iff.mp h
  refine ⟨?_, ?_⟩
  · simpa [view] using ht
  · intro j hj
    simp [view, hj]

/-- The step of another member goes unnoticed. -/
theorem perform_within_of_ne (disjoint : ∀ i j key, owns i key = true → owns j key = true → i = j)
    {j : ι} (hj : j ≠ i) (hs : (c.view i).Homely (owns i))
    (hk : ∀ request now, action = .submit request now → owns i request.key = true)
    (h : c.perform setups i action = some d) :
    (d.view j).within (owns j) = (c.view j).within (owns j) := by
  obtain ⟨hown, hothers⟩ := perform_view h
  obtain ⟨changes, -, hstore, htouches⟩ := State.perform_touches hown
  have hsame : d.store.restrict (owns j) = c.store.restrict (owns j) := by
    have hstore : d.store = c.store.applyAll changes := hstore
    rw [hstore]
    refine Store.restrict_applyAll_of_not_owned (fun change hm => ?_)
    have hi := htouches.homely hs hk change hm
    exact Bool.eq_false_iff.mpr (fun howned => hj (disjoint j i _ howned hi))
  rw [hothers j hj]
  simp only [State.within, view, hsame]

/-- A run of a team is for each member a run of its own steps over its own conversations. -/
theorem play_within (disjoint : ∀ i j key, owns i key = true → owns j key = true → i = j)
    (hs : ∀ i, (c.view i).Homely (owns i))
    (hk : ∀ i request now, (i, .submit request now) ∈ steps → owns i request.key = true)
    (h : c.play setups steps = some d) (i : ι) :
    ((c.view i).within (owns i)).run (setups i) (stepsOf i steps) =
      some ((d.view i).within (owns i)) := by
  induction steps generalizing c with
  | nil =>
    cases h
    rfl
  | cons step rest ih =>
    obtain ⟨j, action⟩ := step
    obtain ⟨e, he, hrest⟩ := Option.bind_eq_some_iff.mp h
    have hkj : ∀ request now, action = .submit request now → owns j request.key = true := by
      rintro request now rfl
      exact hk j request now List.mem_cons_self
    obtain ⟨hown, hothers⟩ := perform_view he
    have hse : ∀ i, (e.view i).Homely (owns i) := by
      intro i
      by_cases hi : i = j
      · subst hi
        exact (hs i).step hown hkj
      · rw [hothers i hi]
        exact hs i
    have ih := ih hse (fun i request now hm => hk i request now (List.mem_cons_of_mem _ hm)) hrest
    by_cases hi : i = j
    · subst hi
      have hstep : ((c.view i).within (owns i)).perform (setups i) action =
          some ((e.view i).within (owns i)) := by
        rw [State.perform_within (hs i) hkj, hown]
        rfl
      have hfirst : stepsOf i ((i, action) :: rest) = action :: stepsOf i rest := by
        simp [stepsOf]
      rw [hfirst, State.run, List.map_cons, State.play, State.move, hstep]
      exact ih
    · have hfirst : stepsOf i ((j, action) :: rest) = stepsOf i rest := by
        simp [stepsOf, Ne.symm hi]
      rw [hfirst, ← perform_within_of_ne disjoint hi (hs j) hkj he]
      exact ih

/-- Orchestrators that share a store and are used on disjoint sets of conversations do not
interfere. However their steps interleave, what becomes of each, with all it keeps, records, sends
to its models and tells its callers, is what becomes of it alone, by its own steps, over the part of
the store that holds its conversations; and in the shared store these hold the same. -/
theorem members_apart {store : Store}
    (disjoint : ∀ i j key, owns i key = true → owns j key = true → i = j)
    (hk : ∀ i request now, (i, .submit request now) ∈ steps → owns i request.key = true)
    (h : (initial store).play setups steps = some c) (i : ι) :
    (State.initial (store.restrict (owns i))).run (setups i) (stepsOf i steps) =
        some { c.member i with store := c.store.restrict (owns i) } ∧
      ∀ key, owns i key = true →
        (c.store.restrict (owns i)).history key = c.store.history key := by
  refine ⟨?_, fun key hown => by simp [hown]⟩
  exact play_within disjoint (fun i p hc => by cases hc) hk h i

/-- One of two orchestrators is cancelled while the other one gets its reply. -/
theorem members_apart_cancelled :
    ∃ steps c, (initial .empty).play (fun _ => ⟨"p", compose⟩) steps = some c ∧
      (State.initial .empty).run ⟨"p", compose⟩ (stepsOf true steps) =
        some { c.member true with store := c.store.restrict (fun key => key = ⟨"b"⟩) } ∧
      c.store.history ⟨"a"⟩ = [Setup.primer ⟨"p", compose⟩] ∧
      c.store.history ⟨"b"⟩ =
        [Setup.primer ⟨"p", compose⟩, ⟨.user, "two"⟩, ⟨.assistant, "reply"⟩] := by
  let request (key : ConversationKey) (input : String) : Request :=
    ⟨key, input, [], ⟨.mock, "m"⟩, 0, none, none⟩
  let steps : List (Bool × Action) := [(false, .submit (request ⟨"a"⟩ "one") 0),
    (true, .submit (request ⟨"b"⟩ "two") 1), (false, .take 2), (true, .take 3), (false, .cancel),
    (true, .finish (.ok "reply")), (false, .interrupt), (true, .conclude 4), (false, .conclude 5)]
  let owns (member : Bool) (key : ConversationKey) : Bool := key = if member then ⟨"b"⟩ else ⟨"a"⟩
  have h := (Option.some_get (show ((initial .empty).play (fun _ => ⟨"p", compose⟩)
    steps).isSome = true by decide +kernel)).symm
  have disjoint : ∀ i j key, owns i key = true → owns j key = true → i = j := by
    intro i j key hi hj
    have heq := (of_decide_eq_true hi).symm.trans (of_decide_eq_true hj)
    revert heq
    cases i <;> cases j <;> simp
  have hk : ∀ i request now, (i, .submit request now) ∈ steps → owns i request.key = true := by
    intro i submitted now hm
    simp only [steps, List.mem_cons, Prod.mk.injEq, Action.submit.injEq, reduceCtorEq, and_false,
      List.not_mem_nil, or_false] at hm
    rcases hm with ⟨rfl, rfl, -⟩ | ⟨rfl, rfl, -⟩ <;> decide
  obtain ⟨halone, hsame⟩ := members_apart disjoint hk h true
  exact ⟨steps, _, h, halone, by decide +kernel, (hsame ⟨"b"⟩ rfl).symm.trans (by decide +kernel)⟩

end Team

end Parley
