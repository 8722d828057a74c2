import Parley.Proofs.Current
import Parley.Proofs.Histories
import Parley.Proofs.SingleFlight

namespace Parley.State

variable {setup : Setup} {store : Store} {s t : State} {key : ConversationKey} {job : Job}
  {p : Pending} {start : List Message}

/-- The messages of a submission that succeeded: its own, and what its own call came to. -/
def turn (setup : Setup) (s : State) (job : Job) : List Message :=
  setup.compose job.request.input job.request.attachments ::
    (s.replies.lookup job.id).toList.map (fun text => ⟨.assistant, text⟩)

def turns (setup : Setup) (s : State) (key : ConversationKey) : List Message :=
  ((s.submissions key).filter (fun job => job.id ∈ s.generated)).flatMap (s.turn setup)

/-- Whether a conversation that was empty is opened: a submission meets it still empty, and with a
model that accepts an opening message. -/
def opens (generated : List Nat) : List Job → Bool
  | [] => false
  | job :: rest =>
    job.request.model.acceptsSystem || (job.id ∉ generated && opens generated rest)

def prime (setup : Setup) (s : State) (start : List Message) (key : ConversationKey) :
    List Message :=
  if start.isEmpty && opens s.generated (s.submissions key) then [setup.primer] else []

def pendingMessages (s : State) (key : ConversationKey) : List Message :=
  (s.current.filter (fun p => p.key = key)).toList.map Pending.userMessage

/-- What the conversation of `key` should hold, if it held `start` at first. -/
def log (setup : Setup) (s : State) (start : List Message) (key : ConversationKey) : List Message :=
  start ++ s.prime setup start key ++ s.turns setup key

theorem turn_congr (hr : t.replies = s.replies) : t.turn setup = s.turn setup :=
  funext (fun job => by rw [turn, turn, hr])

theorem opens_concat (generated : List Nat) (jobs : List Job) (job : Job) :
    opens generated (jobs ++ [job]) =
      (opens generated jobs ||
        (jobs.all (fun other => other.id ∉ generated) && job.request.model.acceptsSystem)) := by
  induction jobs with
  | nil => simp [opens]
  | cons other rest ih =>
    rw [List.cons_append, opens, opens, ih, List.all_cons]
    cases other.request.model.acceptsSystem
    · cases decide (other.id ∉ generated) <;> simp
    · simp

theorem opens_congr {generated generated' : List Nat} {jobs : List Job}
    (h : ∀ job ∈ jobs, job.id ∈ generated' ↔ job.id ∈ generated) :
    opens generated' jobs = opens generated jobs := by
  induction jobs with
  | nil => rfl
  | cons job rest ih =>
    rw [opens, opens, ih (fun other ho => h other (List.mem_cons_of_mem _ ho)),
      decide_eq_decide.mpr (not_congr (h job List.mem_cons_self))]

/-- Whether the last submission succeeded makes no difference to the opening. -/
theorem opens_concat_congr {generated generated' : List Nat} {jobs : List Job}
    (h : ∀ job ∈ jobs, job.id ∈ generated' ↔ job.id ∈ generated) (job : Job) :
    opens generated' (jobs ++ [job]) = opens generated (jobs ++ [job]) := by
  have hall : jobs.all (fun other => other.id ∉ generated') =
      jobs.all (fun other => other.id ∉ generated) := by
    rw [Bool.eq_iff_iff, List.all_eq_true, List.all_eq_true]
    exact forall₂_congr (fun other ho => by simp [h other ho])
  rw [opens_concat, opens_concat, opens_congr h, hall]

def logOf (setup : Setup) (s : State) (start : List Message) (jobs : List Job) : List Message :=
  start ++ (if start.isEmpty && opens s.generated jobs then [setup.primer] else []) ++
    (jobs.filter (fun job => job.id ∈ s.generated)).flatMap (s.turn setup)

/-- None of the submissions succeeds, and no reply is lost. -/
theorem flatMap_turn_congr {jobs : List Job}
    (hg : ∀ job ∈ jobs, job.id ∈ t.generated ↔ job.id ∈ s.generated)
    (hr : ∀ id ∈ s.generated, t.replies.lookup id = s.replies.lookup id) :
    (jobs.filter (fun job => job.id ∈ t.generated)).flatMap (t.turn setup) =
      (jobs.filter (fun job => job.id ∈ s.generated)).flatMap (s.turn setup) := by
  have hfilter : jobs.filter (fun job => job.id ∈ t.generated) =
      jobs.filter (fun job => job.id ∈ s.generated) :=
    List.filter_congr (fun job hj => decide_eq_decide.mpr (hg job hj))
  rw [hfilter, List.flatMap_def, List.flatMap_def]
  refine congrArg List.flatten (List.map_congr_left ?_)
  intro job hj
  rw [turn, turn, hr job.id (of_decide_eq_true (List.mem_filter.mp hj).2)]

theorem logOf_congr {jobs : List Job}
    (hg : ∀ job ∈ jobs, job.id ∈ t.generated ↔ job.id ∈ s.generated)
    (hr : ∀ id ∈ s.generated, t.replies.lookup id = s.replies.lookup id) :
    t.logOf setup start jobs = s.logOf setup start jobs := by
  rw [logOf, logOf, opens_congr hg, flatMap_turn_congr hg hr]

/-- A conversation has no turns as long as none of its submissions succeeded. -/
theorem turns_isEmpty (jobs : List Job) :
    ((jobs.filter (fun job => job.id ∈ s.generated)).flatMap (s.turn setup)).isEmpty =
      jobs.all (fun job => job.id ∉ s.generated) := by
  induction jobs with
  | nil => rfl
  | cons job rest ih =>
    rw [List.all_cons, ← ih]
    by_cases hg : job.id ∈ s.generated
    · simp [hg, turn]
    · simp [hg]

/-- An accepted submission opens its conversation if that is empty, and adds nothing else before it
succeeds. -/
theorem logOf_accepted {jobs : List Job} (hnew : job.id ∉ s.generated) :
    s.logOf setup start (jobs ++ [job]) = s.logOf setup start jobs ++
      if (s.logOf setup start jobs).isEmpty = true ∧ job.request.model.acceptsSystem = true then
        [setup.primer] else [] := by
  have hempty := @turns_isEmpty setup s jobs
  have hnone : [job].filter (fun job => job.id ∈ s.generated) = [] := by simp [hnew]
  rw [logOf, logOf, List.filter_append, hnone, List.append_nil, opens_concat, ← hempty]
  -- The conversation is empty exactly if it was so at first, was not opened and has no turns.
  cases start with
  | cons m rest => simp
  | nil =>
    cases (jobs.filter (fun job => job.id ∈ s.generated)).flatMap (s.turn setup) with
    | cons m rest => simp
    | nil => cases opens s.generated jobs <;> simp

/-- The last of the submissions succeeds. -/
theorem logOf_succeeded {jobs : List Job} {text : String}
    (hother : ∀ other ∈ jobs, other.id ≠ job.id) (hg : t.generated = s.generated ++ [job.id])
    (hr : t.replies = s.replies) (htext : s.replies.lookup job.id = some text)
    (hnew : job.id ∉ s.generated) :
    t.logOf setup start (jobs ++ [job]) = s.logOf setup start (jobs ++ [job]) ++
      [setup.compose job.request.input job.request.attachments, ⟨.assistant, text⟩] := by
  have hsame : ∀ other ∈ jobs, other.id ∈ t.generated ↔ other.id ∈ s.generated :=
    fun other ho => by simp [hg, hother other ho]
  have hfilter : jobs.filter (fun job => job.id ∈ t.generated) =
      jobs.filter (fun job => job.id ∈ s.generated) :=
    List.filter_congr (fun other ho => decide_eq_decide.mpr (hsame other ho))
  have hown : job.id ∈ t.generated := by simp [hg]
  rw [logOf, logOf, opens_concat_congr hsame, turn_congr hr, List.filter_append, List.filter_append,
    hfilter]
  simp [hown, hnew, turn, htext]

/-- A reply that waits to be settled is the reply of its submission's own call. -/
def Heard (s : State) : Prop :=
  ∀ job text losing, s.worker = .ended job (.ok text) losing → s.replies.lookup job.id = some text

theorem replies_sublist_returned (s : State) : (s.replies.map Prod.fst).Sublist s.returned := by
  refine filterMap_sublist ?_ s.trace
  intro e _ he
  cases e with
  | returned id reply =>
    rcases reply with _ | (_ | text)
    · cases he
    · cases he
    · cases he
      rfl
  | _ => cases he

/-- No call comes to two texts. -/
theorem Calls.replies_nodup (hn : Numbered s) (hs : Calls s) : (s.replies.map Prod.fst).Nodup := by
  have hcalled := (List.nodup_append.mp (hs.nodup hn)).1
  rw [hs.turns] at hcalled
  exact (List.nodup_append.mp hcalled).1.sublist s.replies_sublist_returned

/-- A call that goes on came to nothing yet. -/
theorem Calls.unheard (hn : Numbered s) (hs : Calls s) (hj : s.worker.executing? = some job) :
    s.replies.lookup job.id = none := by
  have hcalled := (List.nodup_append.mp (hs.nodup hn)).1
  rw [hs.turns, hj] at hcalled
  have hnew : job.id ∉ s.replies.map Prod.fst := fun hm =>
    (List.nodup_append.mp hcalled).2.2 _ (s.replies_sublist_returned.subset hm) _
      (List.mem_map_of_mem (List.mem_singleton_self job)) rfl
  rw [List.lookup_eq_none_iff]
  intro reply hm
  exact bne_iff_ne.mpr (fun he => hnew (he ▸ List.mem_map_of_mem hm))

theorem WorkerStep.heard {worker queue events job text losing} (hn : Numbered s) (hc : Calls s)
    (h : WorkerStep s worker queue events) (ended : worker = .ended job (.ok text) losing) :
    (s.replies ++ events.filterMap Event.replied?).lookup job.id = some text := by
  cases h with
  | @finish job started result calling =>
    cases result with
    | error e => cases ended
    | ok reply =>
      cases ended
      have hcall : s.worker.executing? = some job := by rw [calling]; rfl
      simp [List.lookup_append, hc.unheard hn hcall]
  | deliver audited => split at ended <;> cases ended
  | _ => cases ended

theorem Heard.step (hn : Numbered s) (hc : Calls s) (hs : Heard s) (h : Effect setup s t) :
    Heard t := by
  intro job text losing ended
  cases h with
  | worked step =>
    simp only [replies, List.filterMap_append]
    exact step.heard hn hc ended
  | discarded | generated | failed | hushed => cases ended
  | rested | stopped | debounced | queued | refused =>
    simpa [replies, List.filterMap_cons] using hs job text losing ended

theorem reachable_heard (hr : Reachable setup store s) : Heard s :=
  hr.induction (fun _ _ _ he => by cases he)
    (fun _ _ hr hs h => hs.step (reachable_numbered hr) (reachable_calls hr) h) (fun _ _ hs => hs)

def Told (s : State) : Prop := ∀ id ∈ s.generated, (s.replies.lookup id).isSome = true

theorem Told.lookup {id : Nat} (hs : Told s) (h : id ∈ s.generated) (more : List (Nat × String)) :
    (s.replies ++ more).lookup id = s.replies.lookup id := by
  obtain ⟨text, ht⟩ := Option.isSome_iff_exists.mp (hs id h)
  rw [List.lookup_append, ht]
  rfl

theorem Told.step (hh : Heard s) (hs : Told s) (h : Effect setup s t) : Told t := by
  have hkept : ∀ more, ∀ id ∈ s.generated, ((s.replies ++ more).lookup id).isSome = true := by
    intro more id hm
    rw [hs.lookup hm]
    exact hs id hm
  cases h with
  | worked step =>
    simp only [Told, generated, replies, List.filterMap_append,
      step.filterMap_eq_nil workless_generated, List.append_nil]
    exact hkept _
  | @generated job text losing p elapsed ended busy own =>
    intro id hm
    have hm : id ∈ s.generated ∨ id = job.id := by
      simpa [State.generated, List.filterMap_cons] using hm
    have hr : (s.replies.lookup id).isSome = true := by
      rcases hm with hm | rfl
      · exact hs id hm
      · rw [hh job text losing ended]
        rfl
    simpa [replies, List.filterMap_cons] using hr
  | rested | stopped | debounced | queued | refused | discarded | failed | hushed =>
    intro id hm
    simpa [replies, List.filterMap_cons] using
      hs id (by simpa [State.generated, List.filterMap_cons] using hm)

theorem reachable_told (hr : Reachable setup store s) : Told s :=
  hr.induction (fun _ hm => by cases hm) (fun _ _ hr hs h => hs.step (reachable_heard hr) h)
    (fun _ _ hs => hs)

theorem settlement_of_generated {id : Nat} (h : id ∈ s.generated) :
    ∃ result reply, (id, result, .generated reply) ∈ s.settlements := by
  obtain ⟨e, he, hg⟩ := List.mem_filterMap.mp h
  cases e with
  | settled i result outcome =>
    cases outcome with
    | generated reply =>
      cases hg
      exact ⟨result, reply, List.mem_filterMap.mpr ⟨_, he, rfl⟩⟩
    | failed error => cases hg
    | skipped => cases hg
  | _ => cases hg

theorem generated_of_settlement {id : Nat} {result : Except CallFailure String} {reply : Reply}
    (h : (id, result, .generated reply) ∈ s.settlements) : id ∈ s.generated := by
  obtain ⟨e, he, hsettled⟩ := List.mem_filterMap.mp h
  cases e with
  | settled i r outcome =>
    cases hsettled
    exact List.mem_filterMap.mpr ⟨_, he, rfl⟩
  | _ => cases hsettled

theorem settled_of_generated {id : Nat} (h : id ∈ s.generated) : id ∈ s.settledIds := by
  obtain ⟨_, _, hm⟩ := settlement_of_generated h
  exact List.mem_map_of_mem (f := Prod.fst) hm

/-- The submission that is accepted next has no reply yet. -/
theorem Settlements.next_silent (hn : Numbered s) (hb : Settlements s) :
    s.lastId + 1 ∉ s.generated := fun hm =>
  Nat.not_succ_le_self _ (hb.settled_le hn (settled_of_generated hm))

/-- The conversation of `key`, which held `start` at first, holds what it should. -/
def Remembered (setup : Setup) (start : List Message) (key : ConversationKey) (s : State) : Prop :=
  s.store.history key = s.log setup start key ++ s.pendingMessages key

/-- The conversation of `key` held `start` when there had been no other submissions to it than those
before `jobs`, and holds what it should by now. -/
structure Kept (setup : Setup) (start : List Message) (key : ConversationKey) (jobs : List Job)
    (s : State) : Prop where
  suffix : jobs <:+ s.submissions key
  newest : ∀ p, s.current = some p → p.key = key →
    ∃ front job, jobs = front ++ [job] ∧ p = setup.pending job
  history : s.store.history key = s.logOf setup start jobs ++ s.pendingMessages key

theorem Remembered.kept (hslot : Slot setup s) (hs : Remembered setup start key s) :
    Kept setup start key (s.submissions key) s where
  suffix := List.suffix_refl _
  newest p hc hk := by
    obtain ⟨job, hlast, rfl⟩ := hslot.newest p hc
    obtain ⟨front, hfront⟩ := List.getLast?_eq_some_iff.mp hlast
    have hkey : job.request.key = key := hk
    exact ⟨front.filter (fun job => job.request.key = key), job,
      by simp [submissions, hfront, hkey], rfl⟩
  history := hs

section Kept

variable {jobs : List Job}

theorem Kept.vacant (hsuffix : jobs <:+ t.submissions key) (hc : t.current = none)
    (h : t.store.history key = t.logOf setup start jobs) : Kept setup start key jobs t where
  suffix := hsuffix
  newest p hp := by simp [hc] at hp
  history := by rw [pendingMessages, hc, h]; exact (List.append_nil _).symm

/-- The user message of the current submission stands last in its conversation and can be taken
back. -/
theorem Kept.undo (hs : Kept setup start key jobs s) (hc : s.current = some p) :
    (p.undo s.store).history key = s.logOf setup start jobs := by
  by_cases hk : p.key = key
  · subst hk
    have hlast : s.store.history p.key = s.logOf setup start jobs ++ [p.userMessage] := by
      rw [hs.history, pendingMessages, hc]
      simp
    rw [Pending.history_undo hlast, if_pos rfl]
  · rw [Pending.history_undo_of_ne hk, hs.history, pendingMessages, hc]
    simp [hk]

/-- A submission joins its conversation. -/
theorem Kept.admitted (request : Request) (now : Instant) (hn : Numbered s) (hb : Settlements s)
    (hs : Kept setup start key jobs s) (idle : s.current = none) : ∃ more,
      (s.admitted setup request now).submissions key = s.submissions key ++ more ∧
      Kept setup start key (jobs ++ more) (s.admitted setup request now) := by
  have hnew : (setup.job s request now).id ∉ s.generated := hb.next_silent hn
  have hh : s.store.history key = s.logOf setup start jobs := by
    rw [hs.history, pendingMessages, idle]
    exact List.append_nil _
  have hsame : ∀ jobs, (s.admitted setup request now).logOf setup start jobs =
      s.logOf setup start jobs := fun jobs =>
    logOf_congr (by simp [generated, State.admitted]) (by simp [replies, State.admitted])
  by_cases hk : request.key = key
  · have hgrown : (s.admitted setup request now).submissions key =
        s.submissions key ++ [setup.job s request now] := by
      simp [submissions, accepted, State.admitted, Setup.job, hk]
    obtain ⟨front, hfront⟩ := hs.suffix
    refine ⟨_, hgrown, ⟨front, by rw [hgrown, ← hfront, List.append_assoc]⟩, ?_, ?_⟩
    · intro p hc _
      cases hc
      exact ⟨jobs, _, rfl, rfl⟩
    · subst hk
      rw [hsame, logOf_accepted hnew, pendingMessages]
      simp [State.admitted, Setup.history_opened, hh, Setup.opening, Store.isEmpty, Setup.job,
        Setup.pending, Option.filter]
  · have hsub : (s.admitted setup request now).submissions key = s.submissions key := by
      simp [submissions, accepted, State.admitted, Setup.job, hk]
    refine ⟨[], hsub.trans (List.append_nil _).symm, ?_⟩
    rw [List.append_nil]
    refine ⟨hsub ▸ hs.suffix, ?_, ?_⟩
    · intro p hc hkey
      cases hc
      exact absurd hkey hk
    · rw [hsame, pendingMessages]
      simp [State.admitted, Setup.history_opened, hk, Ne.symm hk, hh, Setup.job, Setup.pending]

/-- Nothing happens to the conversation, to its submissions or to the current one. -/
theorem Kept.same (hs : Kept setup start key jobs s) (hst : t.store = s.store)
    (hc : t.current = s.current) (hsub : t.submissions key = s.submissions key)
    (hl : t.logOf setup start jobs = s.logOf setup start jobs) : Kept setup start key jobs t where
  suffix := hsub ▸ hs.suffix
  newest p hp := hs.newest p (hc ▸ hp)
  history := by rw [hst, hl, pendingMessages, hc]; exact hs.history

/-- The reply of the current submission enters the conversation that it is part of. -/
theorem Kept.replied {text : String} (hr : Reachable setup store s)
    (hs : Kept setup start key jobs s) (hj : s.accepted.getLast? = some job)
    (busy : s.current = some (setup.pending job)) (hsub : t.submissions key = s.submissions key)
    (hc : t.current = none) (hg : t.generated = s.generated ++ [job.id])
    (hreplies : t.replies = s.replies) (htext : s.replies.lookup job.id = some text)
    (hst : t.store = s.store.append job.request.key ⟨.assistant, text⟩) :
    Kept setup start key jobs t := by
  have hn := reachable_numbered hr
  have hnew : job.id ∉ s.generated := fun hm =>
    (reachable_slot hr).waits _ busy (settled_of_generated hm)
  refine .vacant (hsub ▸ hs.suffix) hc ?_
  have hh := hs.history
  rw [pendingMessages, busy] at hh
  rw [hst, Store.history_append]
  by_cases hk : job.request.key = key
  · subst hk
    obtain ⟨front, last, rfl, hlast⟩ := hs.newest _ busy rfl
    obtain ⟨before, hbefore⟩ := hs.suffix
    have hsplit : s.submissions job.request.key = (before ++ front) ++ last :: [] := by
      rw [← hbefore, List.append_assoc]
    have hm : last ∈ s.accepted :=
      (List.mem_filter.mp (show last ∈ s.submissions job.request.key by rw [hsplit]; simp)).1
    have hid : last.id = job.id := (congrArg Pending.id hlast).symm
    obtain rfl := List.inj_on_of_nodup_map hn.ids_nodup hm (List.mem_of_getLast? hj) hid
    have hother : ∀ other ∈ front, other.id ≠ last.id := fun other ho =>
      Nat.ne_of_lt (hn.earlier hsplit (List.mem_append_right _ ho))
    rw [if_pos rfl, hh, logOf_succeeded hother hg hreplies htext hnew]
    simp [Setup.pending, Option.filter]
  · have hother : ∀ other ∈ jobs, other.id ∈ t.generated ↔ other.id ∈ s.generated := by
      intro other ho
      obtain ⟨hm, hkey⟩ := List.mem_filter.mp (hs.suffix.subset ho)
      have hne : other.id ≠ job.id := by
        intro hid
        obtain rfl := List.inj_on_of_nodup_map hn.ids_nodup hm (List.mem_of_getLast? hj) hid
        exact hk (of_decide_eq_true hkey)
      simp [hg, hne]
    rw [if_neg (Ne.symm hk), hh, logOf_congr hother (fun _ _ => by rw [hreplies])]
    simp [Setup.pending, hk]

theorem Kept.step (hr : Reachable setup store s) (hs : Kept setup start key jobs s)
    (h : Effect setup s t) :
    ∃ more, t.submissions key = s.submissions key ++ more ∧
      Kept setup start key (jobs ++ more) t := by
  have hn := reachable_numbered hr
  have hb := reachable_settlements hr
  have hslot := reachable_slot hr
  -- Nobody joins.
  have hstay (hsub : t.submissions key = s.submissions key)
      (ht : t.submissions key = s.submissions key → Kept setup start key jobs t) :
      ∃ more, t.submissions key = s.submissions key ++ more ∧
        Kept setup start key (jobs ++ more) t :=
    ⟨[], by rw [hsub, List.append_nil], by rw [List.append_nil]; exact ht hsub⟩
  cases h with
  | rested closed idle =>
    exact hstay rfl (hs.same rfl rfl · (logOf_congr (fun _ _ => .rfl) (fun _ _ => rfl)))
  | discarded ended stale =>
    exact hstay (by simp [submissions, accepted]) (hs.same rfl rfl · (logOf_congr
      (by simp [generated]) (fun _ _ => by simp [replies, List.filterMap_cons])))
  | worked step =>
    refine hstay (by simp [submissions, accepted, step.filterMap_eq_nil]) (hs.same rfl rfl ·
      (logOf_congr (by simp [generated, step.filterMap_eq_nil]) ?_))
    intro id hm
    simp only [replies, List.filterMap_append]
    exact (reachable_told hr).lookup hm _
  | stopped closed busy | debounced request busy | failed ended busy own lost =>
    refine hstay (by simp [submissions, accepted]) (fun hsub =>
      .vacant (hsub ▸ hs.suffix) rfl ((hs.undo busy).trans (logOf_congr ?_ ?_).symm))
    · simp [generated, List.filterMap_cons]
    · simp [replies, List.filterMap_cons]
  | hushed ended busy own => exact absurd own (hslot.not_hushed busy ended)
  | queued request now idle alive =>
    obtain ⟨more, hgrown, hadmitted⟩ := hs.admitted request now hn hb idle
    exact ⟨more, hgrown, hadmitted.same rfl rfl rfl
      (logOf_congr (fun _ _ => .rfl) (fun _ _ => rfl))⟩
  | refused request now idle dead =>
    obtain ⟨more, hgrown, hadmitted⟩ := hs.admitted request now hn hb idle
    refine ⟨more, ?_, .vacant ?_ idle ((hadmitted.undo rfl).trans (logOf_congr ?_ ?_).symm)⟩
    · simpa [submissions, accepted, State.admitted, List.filterMap_cons] using hgrown
    · simpa [submissions, accepted, State.admitted, List.filterMap_cons] using hadmitted.suffix
    · simp [generated, State.admitted, List.filterMap_cons]
    · simp [replies, State.admitted, List.filterMap_cons]
  | @generated job text losing p elapsed ended busy own =>
    obtain ⟨newest, hlast, rfl⟩ := hslot.newest p busy
    have hid : newest.id = job.id := own
    have htext : s.replies.lookup newest.id = some text :=
      hid ▸ reachable_heard hr job text losing ended
    exact hstay (by simp [submissions, accepted]) (hs.replied hr hlast busy · rfl
      (by simp [State.generated, List.filterMap_cons, hid]) (by simp [replies]) htext rfl)

end Kept

theorem Remembered.admitted {request : Request} {now : Instant} (hn : Numbered s)
    (hb : Settlements s) (hs : Remembered setup start key s) (idle : s.current = none) :
    Remembered setup start key (s.admitted setup request now) := by
  have hkept : Kept setup start key (s.submissions key) s :=
    ⟨List.suffix_refl _, by simp [idle], hs⟩
  obtain ⟨more, hgrown, ht⟩ := hkept.admitted request now hn hb idle
  exact (hgrown ▸ ht).history

theorem Remembered.step (hr : Reachable setup store s) (hs : Remembered setup start key s)
    (h : Effect setup s t) : Remembered setup start key t := by
  obtain ⟨more, hgrown, ht⟩ := (hs.kept (reachable_slot hr)).step hr h
  exact (hgrown ▸ ht).history

/-- What the conversation of `key` held at first is followed by the turns of the submissions that
succeeded, in the order of their acceptance, and by the user message of the current submission. -/
theorem play_remembered {moves : List Move} (h : (initial store).play setup moves = some s)
    (hf : ∀ m ∈ moves, ¬ m.touches key) : Remembered setup (store.history key) key s := by
  revert hf
  refine play_induction (motive := fun moves s => (∀ m ∈ moves, ¬ m.touches key) →
    Remembered setup (store.history key) key s) ?_ ?_ h
  · intro _
    simp [Remembered, log, prime, turns, submissions, accepted, initial, opens, pendingMessages]
  · intro before t m u ht ih hm hf
    have hs := ih (fun m' hm' => hf m' (List.mem_append_left _ hm'))
    rcases move_effect hm with he | ⟨change, rfl, rfl⟩
    · exact hs.step ⟨before, ht⟩ he
    · have hne : change.key ≠ key := hf (.foreign change) (by simp)
      rw [Remembered, Store.history_apply_of_ne hne]
      exact hs

/-- Conversation memory is a sequential log of the turns that succeeded: whatever steps interleave,
a conversation is what it was at first, its opening message if one was due, the turns of the
submissions that succeeded in the order of their acceptance, and the user message of the current
submission. Each turn ends with the one text that its own call came to. -/
theorem history_eq_log {actions : List Action} (h : (initial store).run setup actions = some s)
    (key : ConversationKey) :
    s.store.history key = store.history key ++ s.prime setup (store.history key) key ++
      s.turns setup key ++ s.pendingMessages key ∧
    (∀ id ∈ s.generated, (s.replies.lookup id).isSome = true) ∧
    (s.replies.map Prod.fst).Nodup := by
  have hr : Reachable setup store s := ⟨_, h⟩
  refine ⟨play_remembered h ?_, reachable_told hr,
    (reachable_calls hr).replies_nodup (reachable_numbered hr)⟩
  intro m hm
  obtain ⟨action, _, rfl⟩ := List.mem_map.mp hm
  exact id

/-- A turn, and a second submission that waits. -/
theorem history_eq_log_second_waits :
    ∃ actions s, (initial .empty).run ⟨"p", compose⟩ actions = some s ∧
      s.store.history ⟨"k"⟩ = [Setup.primer ⟨"p", compose⟩, ⟨.user, "one"⟩, ⟨.assistant, "two"⟩,
        ⟨.user, "three"⟩] := by
  let request (input : String) : Request := ⟨⟨"k"⟩, input, [], ⟨.mock, "m"⟩, 0, none, none⟩
  let actions : List Action := [.submit (request "one") 0, .take 1, .finish (.ok "two"),
    .conclude 2, .submit (request "three") 3]
  have h : (initial .empty).run ⟨"p", compose⟩ actions = some _ := rfl
  exact ⟨actions, _, h, (history_eq_log h ⟨"k"⟩).1.trans (by decide +kernel)⟩

end Parley.State
