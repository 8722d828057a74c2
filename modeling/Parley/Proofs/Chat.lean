import Mathlib.Data.List.DropRight
import Parley.Console.Loop
import Parley.Proofs.Footprint
import Parley.Proofs.Prompts

namespace Parley

namespace Console

variable {c : Console} {s t : State} {lines : List String} {line : String} {now : Instant}

/-- Carried out without a break, a line does what the console does for it. -/
theorem play_moves (hs : s.closed = false) (command : Command) :
    s.play c.setup (c.moves now command) = some (c.obey s now command).1 := by
  cases command <;>
    simp [moves, obey, State.play, State.move, State.perform, Store.apply, hs]

def sinceClear (lines : List String) : List String :=
  lines.rtakeWhile (fun line => Text.trim line ≠ "/clear")

def typed (lines : List String) : List String :=
  ((sinceClear lines).map Text.trim).filter
    (fun text => text ∉ ["", "/quit", "/stop", "/clear", "/history"])

theorem typed_concat (lines : List String) (line : String) :
    typed (lines ++ [line]) = match Command.ofLine line with
      | .clear => []
      | .prompt text => typed lines ++ [text]
      | _ => typed lines := by
  by_cases hclear : Text.trim line = "/clear"
  · simp [typed, sinceClear, Command.ofLine, hclear]
  · have hsince : sinceClear (lines ++ [line]) = sinceClear lines ++ [line] := by
      simp [sinceClear, hclear]
    rw [typed, hsince, List.map_append, List.filter_append, ← typed, Command.ofLine]
    by_cases hempty : Text.trim line = ""
    · simp [hempty]
    · by_cases hquit : Text.trim line = "/quit"
      · simp [hquit]
      · by_cases hstop : Text.trim line = "/stop"
        · simp [hstop]
        · by_cases hhistory : Text.trim line = "/history"
          · simp [hhistory]
          · simp [hempty, hquit, hstop, hclear, hhistory]

end Console

namespace State

variable {setup : Setup} {store : Store} {s t : State} {key : ConversationKey} {job : Job}
  {start : List Message} {jobs : List Job} {action : Action}

/-- For one model a conversation is opened by its first submission or not at all. -/
theorem opens_uniform {generated : List Nat} {accepts : Bool}
    (h : ∀ job ∈ jobs, job.request.model.acceptsSystem = accepts) :
    opens generated jobs = (accepts && !jobs.isEmpty) := by
  induction jobs with
  | nil => simp [opens]
  | cons job rest ih =>
    rw [opens, h job List.mem_cons_self, ih (fun other ho => h other (List.mem_cons_of_mem _ ho))]
    cases accepts <;> simp

/-- No call comes to two texts. -/
theorem replies_iff (hr : Reachable setup store s) {id : Nat}
    {reply text : String} (h : s.replies.lookup id = some reply) :
    (id, text) ∈ s.replies ↔ text = reply := by
  obtain ⟨before, after, hsplit, -⟩ := List.lookup_eq_some_iff.mp h
  have hreply : (id, reply) ∈ s.replies := by rw [hsplit]; simp
  constructor
  · intro hm
    have hnodup := (reachable_calls hr).replies_nodup (reachable_numbered hr)
    exact (Prod.mk.inj (List.inj_on_of_nodup_map hnodup hm hreply rfl)).2
  · rintro rfl
    exact hreply

/-- A step of the orchestrator keeps a conversation in order, and only a submission that it accepts
joins. -/
theorem Kept.perform (hr : Reachable setup store s) (hs : Kept setup start key jobs s)
    (h : s.perform setup action = some t) :
    (t.accepted = s.accepted ∧ Kept setup start key jobs t) ∨
      ∃ request now, action = .submit request now ∧
        t.accepted = s.accepted ++ [setup.job s request now] ∧
        (request.key = key → Kept setup start key (jobs ++ [setup.job s request now]) t) := by
  obtain ⟨more, hgrown, ht⟩ := hs.step hr (perform_effect h)
  obtain ⟨changes, -, -, htouches⟩ := perform_touches h
  have hsame (ha : t.accepted = s.accepted) : Kept setup start key jobs t := by
    have hnone : more = [] := by
      rw [submissions, ha] at hgrown
      exact List.append_right_eq_self.mp hgrown.symm
    rwa [hnone, List.append_nil] at ht
  have hjoined {request : Request} {now : Instant}
      (ha : t.accepted = s.accepted ++ [setup.job s request now]) (hk : request.key = key) :
      Kept setup start key (jobs ++ [setup.job s request now]) t := by
    have hone : more = [setup.job s request now] := by
      have hk : (setup.job s request now).request.key = key := hk
      rw [submissions, ha, List.filter_append] at hgrown
      simpa [hk] using (List.append_cancel_left hgrown).symm
    rwa [hone] at ht
  cases htouches with
  | opened idle accepted | refused idle accepted =>
    exact .inr ⟨_, _, rfl, accepted, hjoined accepted⟩
  | debounced busy accepted => exact .inl ⟨accepted, hsame accepted⟩
  | givenUp other busy past accepted => exact .inl ⟨accepted, hsame accepted⟩
  | replied other busy past accepted => exact .inl ⟨accepted, hsame accepted⟩
  | nothing other accepted => exact .inl ⟨accepted, hsame accepted⟩

theorem Kept.history_nil (hs : Kept setup [] key [] s) : s.store.history key = [] := by
  have hnone : s.current.filter (fun p => p.key = key) = none := by
    rw [Option.filter_eq_none_iff]
    intro p hc hk
    obtain ⟨front, job, hnil, -⟩ := hs.newest p hc (of_decide_eq_true hk)
    exact List.concat_ne_nil job front (by simpa using hnil.symm)
  rw [hs.history, pendingMessages, hnone]
  rfl

/-- A conversation for a model that refuses system messages holds none. -/
theorem Kept.no_system
    (hplain : ∀ input attachments, (setup.compose input attachments).role ≠ .system)
    (hrefuse : ∀ job ∈ jobs, job.request.model.acceptsSystem = false)
    (hs : Kept setup [] key jobs s) : ∀ m ∈ s.store.history key, m.role ≠ .system := by
  intro m hm
  rw [hs.history, logOf, opens_uniform hrefuse, Bool.false_and, Bool.and_false] at hm
  rcases List.mem_append.mp hm with hm | hm
  · obtain ⟨job, -, hturn⟩ := List.mem_flatMap.mp hm
    exact role_turn hplain hturn
  · obtain ⟨p, hp, rfl⟩ := List.mem_map.mp hm
    obtain ⟨hc, hk⟩ := Option.mem_filter_iff.mp (Option.mem_toList.mp hp)
    obtain ⟨front, job, -, rfl⟩ := hs.newest p hc (of_decide_eq_true hk)
    exact hplain _ _

end State

namespace Console

open State

variable {c : Console} {s t : State} {l l' : Loop} {lines : List String} {line : String}
  {now : Instant} {jobs : List Job} {action : Action} {m : Move} {due rest : List Move}
  {ticks : List Tick}

/-- All that the console submitted is what it makes of a text, and a model that refuses system
messages was sent none. -/
structure Faithful (c : Console) (s : State) : Prop where
  reachable : Reachable c.setup .empty s
  own : ∀ job ∈ s.accepted, ∃ text, job.request = c.request text
  spared : c.model.acceptsSystem = false →
    ∀ job ∈ s.accepted, ∀ m ∈ job.messages, m.role ≠ .system

theorem Faithful.start : Faithful c Loop.start.state where
  reachable := ⟨[], rfl⟩
  own := by simp [Loop.start, State.initial, State.accepted]
  spared := by simp [Loop.start, State.initial, State.accepted]

theorem Faithful.model (hf : Faithful c s) {job : Job} (hj : job ∈ s.accepted) :
    job.request.model = c.model := by
  obtain ⟨text, hrequest⟩ := hf.own job hj
  rw [hrequest]
  rfl

theorem Faithful.accepted_of_suffix (hs : Kept c.setup [] c.key jobs s) {job : Job}
    (hj : job ∈ jobs) : job ∈ s.accepted :=
  (List.mem_filter.mp (hs.suffix.subset hj)).1

theorem Faithful.perform
    (hplain : ∀ input attachments, (c.setup.compose input attachments).role ≠ .system)
    (hf : Faithful c s) (hs : Kept c.setup [] c.key jobs s)
    (hrequest : ∀ request now, action = .submit request now → ∃ text, request = c.request text)
    (h : s.perform c.setup action = some t) : Faithful c t := by
  have hr : Reachable c.setup .empty t := hf.reachable.move (m := .own action) h
  rcases hs.perform hf.reachable h with ⟨ha, -⟩ | ⟨request, now, hsubmit, ha, -⟩
  · exact ⟨hr, ha ▸ hf.own, ha ▸ hf.spared⟩
  · obtain ⟨text, rfl⟩ := hrequest request now hsubmit
    refine ⟨hr, ?_, ?_⟩
    · intro job hj
      rw [ha] at hj
      rcases List.mem_append.mp hj with hj | hj
      · exact hf.own job hj
      · rw [List.mem_singleton.mp hj]
        exact ⟨text, rfl⟩
    · intro hrefuse job hj m hm
      rw [ha] at hj
      rcases List.mem_append.mp hj with hj | hj
      · exact hf.spared hrefuse job hj m hm
      · have hall : ∀ job ∈ jobs, job.request.model.acceptsSystem = false := fun job hj => by
          rw [hf.model (Faithful.accepted_of_suffix hs hj), hrefuse]
        have hmodel : (c.request text).model.acceptsSystem = false := hrefuse
        have hmessages : job.messages = s.store.history c.key ++
            [c.setup.compose text []] := by
          rw [List.mem_singleton.mp hj]
          simp only [Setup.job, Setup.history_opened, Setup.opening, hmodel, Bool.and_false]
          rfl
        rw [hmessages] at hm
        rcases List.mem_append.mp hm with hm | hm
        · exact hs.no_system hplain hall m hm
        · rw [List.mem_singleton.mp hm]
          exact hplain _ _

/-- How far the console is with the line that it read last, and what the conversation holds
meanwhile. -/
inductive Stage (c : Console) (lines : List String) (s : State) : List Move → Prop
  /-- What was accepted, and what is still to be submitted, was typed in this order. -/
  | steady {due : List Move} {jobs : List Job} (kept : Kept c.setup [] c.key jobs s)
      (own : ∀ m ∈ due, ∃ action, m = .own action)
      (order : (jobs.map Job.request ++ requests due).Sublist ((typed lines).map c.request)) :
      Stage c lines s due
  | clearing {jobs : List Job} (kept : Kept c.setup [] c.key jobs s) (nothing : typed lines = []) :
      Stage c lines s [.own .cancel, .foreign (.clear c.key)]
  | cleared {jobs : List Job} (kept : Kept c.setup [] c.key jobs s) (nothing : typed lines = [])
      (idle : s.current = none) : Stage c lines s [.foreign (.clear c.key)]

theorem Stage.start : Stage c [] Loop.start.state [] := by
  have hempty : Kept c.setup [] c.key [] Loop.start.state :=
    .vacant (List.nil_suffix ..) rfl (by simp [Loop.start, State.initial, logOf, opens])
  exact .steady hempty (by simp) (by simp [requests])

/-- When the conversation is about to be cleared, no submission is current. -/
theorem Stage.idle {change : Write} (hs : Stage c lines s (.foreign change :: rest)) :
    s.current = none := by
  cases hs with
  | steady kept own order =>
    obtain ⟨action, haction⟩ := own _ List.mem_cons_self
    cases haction
  | cleared kept nothing idle => exact idle

theorem Stage.kept (hs : Stage c lines s due) : ∃ jobs, Kept c.setup [] c.key jobs s := by
  cases hs with
  | steady kept | clearing kept | cleared kept => exact ⟨_, kept⟩

/-- The worker goes on. -/
theorem Stage.worker (hf : Faithful c s) (hs : Stage c lines s due)
    (hw : action.byWorker = true) (h : s.perform c.setup action = some t) :
    Stage c lines t due := by
  have hkept {jobs : List Job} (hs : Kept c.setup [] c.key jobs s) :
      Kept c.setup [] c.key jobs t := by
    rcases hs.perform hf.reachable h with ⟨-, ht⟩ | ⟨request, now, rfl, -⟩
    · exact ht
    · cases hw
  cases hs with
  | steady kept own order => exact .steady (hkept kept) own order
  | clearing kept nothing => exact .clearing (hkept kept) nothing
  | cleared kept nothing idle =>
    refine .cleared (hkept kept) nothing (Option.eq_none_iff_forall_ne_some.mpr ?_)
    intro p hc
    rcases perform_current h hc with hc | ⟨request, now, rfl, -⟩
    · rw [idle] at hc
      cases hc
    · cases hw

/-- A line is read. -/
theorem Stage.read (hs : Stage c lines s []) :
    Stage c (lines ++ [line]) s (c.moves now (Command.ofLine line)) := by
  cases hs with
  | @steady _ jobs kept own order =>
    have horder : (jobs.map Job.request).Sublist ((typed lines).map c.request) := by
      simpa [requests] using order
    have hlines := typed_concat lines line
    cases hcommand : Command.ofLine line with
    | clear => exact .clearing kept (by rw [hlines, hcommand])
    | prompt text =>
      refine .steady kept (by simp [moves]) ?_
      rw [hlines, hcommand, List.map_append]
      exact horder.append (List.Sublist.refl [c.request text])
    | nothing | quit | stop | history =>
      refine .steady kept (by simp [moves]) ?_
      rw [hlines, hcommand]
      simpa [requests, moves, Move.request?, List.filterMap_cons] using horder

/-- The next thing is done. -/
theorem Stage.proceed
    (hplain : ∀ input attachments, (c.setup.compose input attachments).role ≠ .system)
    (hf : Faithful c s) (hs : Stage c lines s (m :: rest)) (h : s.move c.setup m = some t) :
    Faithful c t ∧ Stage c lines t rest := by
  cases hs with
  | @steady _ jobs kept own order =>
    obtain ⟨action, rfl⟩ := own m List.mem_cons_self
    have hown : ∀ m ∈ rest, ∃ action, m = .own action :=
      fun m hm => own m (List.mem_cons_of_mem _ hm)
    have hrequest : ∀ request now, action = .submit request now →
        ∃ text, request = c.request text := by
      rintro request now rfl
      obtain ⟨text, -, htext⟩ := List.mem_map.mp
        (order.subset (List.mem_append_right _ List.mem_cons_self))
      exact ⟨text, htext.symm⟩
    refine ⟨hf.perform hplain kept hrequest h, ?_⟩
    -- What was due either joins those that were accepted, as the last one, or drops out.
    rcases kept.perform hf.reachable h with ⟨-, ht⟩ | ⟨request, now, rfl, -, ht⟩
    · refine .steady ht hown (List.Sublist.trans ?_ order)
      refine (List.Sublist.refl _).append ?_
      exact (List.sublist_cons_self _ _).filterMap _
    · obtain ⟨text, rfl⟩ := hrequest request now rfl
      refine .steady (ht rfl) hown ?_
      simpa [requests, Move.request?, Setup.job, Console.request] using order
  | clearing kept nothing =>
    -- Which submissions the conversation holds does not matter any more, only that none is current.
    have h : s.perform c.setup .cancel = some t := h
    refine ⟨hf.perform hplain kept (by simp) h, ?_⟩
    obtain ⟨jobs, hkept⟩ : ∃ jobs, Kept c.setup [] c.key jobs t := by
      rcases kept.perform hf.reachable h with ⟨-, ht⟩ | ⟨request, now, hsubmit, -⟩
      · exact ⟨_, ht⟩
      · cases hsubmit
    refine .cleared hkept nothing ?_
    simp only [State.perform] at h
    split at h
    · cases h
    · cases h
      unfold cancelCurrent
      split
      · rw [abandon_eq]
      · assumption
  | cleared kept nothing idle =>
    cases h
    refine ⟨⟨?_, hf.own, hf.spared⟩, ?_⟩
    · exact hf.reachable.move (m := .foreign (.clear c.key)) rfl
    · refine @Stage.steady _ _ _ _ [] (.vacant (List.nil_suffix ..) idle ?_) (by simp) ?_
      · simp [Store.apply, logOf, opens]
      · simp [requests]

theorem Loop.due_of_waits (h : l.waits = true) : l.due = [] :=
  List.isEmpty_iff.mp (Bool.and_eq_true_iff.mp h).1

theorem Loop.play_stage
    (hplain : ∀ input attachments, (c.setup.compose input attachments).role ≠ .system)
    (h : l.play c ticks = some l') (hf : Faithful c l.state) (hs : Stage c lines l.state l.due) :
    Faithful c l'.state ∧ Stage c (lines ++ ticks.filterMap Tick.line?) l'.state l'.due := by
  induction ticks generalizing l lines with
  | nil =>
    cases h
    exact ⟨hf, by simpa using hs⟩
  | cons tick rest ih =>
    obtain ⟨next, hnext, hrest⟩ := Option.bind_eq_some_iff.mp h
    cases tick with
    | read line now =>
      simp only [step] at hnext
      split at hnext
      · rename_i hwaits
        cases hnext
        have hread := @Stage.read c l.state lines line now (due_of_waits hwaits ▸ hs)
        simpa [Tick.line?] using ih hrest hf hread
      · cases hnext
    | leave =>
      simp only [step] at hnext
      split at hnext
      · rename_i hwaits
        cases hnext
        rw [due_of_waits hwaits] at hs
        cases hs with
        | steady kept own order =>
          refine ih hrest hf (.steady kept (by simp) ?_)
          simpa [requests, Move.request?, List.filterMap_cons] using order
      · cases hnext
    | proceed =>
      simp only [step] at hnext
      split at hnext
      · cases hnext
      · rename_i m after hdue
        obtain ⟨t, ht, rfl⟩ := Option.map_eq_some_iff.mp hnext
        obtain ⟨hft, hst⟩ := (hdue ▸ hs).proceed hplain hf ht
        exact ih hrest hft hst
    | worker action =>
      simp only [step] at hnext
      split at hnext
      · rename_i hw
        obtain ⟨t, ht, rfl⟩ := Option.map_eq_some_iff.mp hnext
        obtain ⟨jobs, kept⟩ := hs.kept
        have hrequest : ∀ request now, action = .submit request now →
            ∃ text, request = c.request text := by
          rintro request now rfl
          cases hw
        exact ih hrest (hf.perform hplain kept hrequest ht) (hs.worker hf hw ht)
      · cases hnext

/-- What happens to the orchestrator and its store on the way is a run of theirs. -/
theorem Loop.play_state (h : l.play c ticks = some l') :
    ∃ moves, l.state.play c.setup moves = some l'.state := by
  induction ticks generalizing l with
  | nil =>
    cases h
    exact ⟨[], rfl⟩
  | cons tick rest ih =>
    obtain ⟨next, hnext, hrest⟩ := Option.bind_eq_some_iff.mp h
    obtain ⟨moves, hmoves⟩ := ih hrest
    have hmoved {m : Move} (hm : l.state.move c.setup m = some next.state) :
        ∃ moves, l.state.play c.setup moves = some l'.state :=
      ⟨m :: moves, by rw [State.play, hm]; exact hmoves⟩
    cases tick with
    | read line now | leave =>
      simp only [step] at hnext
      split at hnext
      · cases hnext
        exact ⟨moves, hmoves⟩
      · cases hnext
    | proceed =>
      simp only [step] at hnext
      split at hnext
      · cases hnext
      · obtain ⟨t, ht, rfl⟩ := Option.map_eq_some_iff.mp hnext
        exact hmoved ht
    | worker action =>
      simp only [step] at hnext
      split at hnext
      · obtain ⟨t, ht, rfl⟩ := Option.map_eq_some_iff.mp hnext
        exact hmoved (m := .own action) ht
      · cases hnext

/-- The submissions that make up the turns of the conversation, with their replies. -/
def turnsOf (s : State) (jobs : List Job) : List (Job × String) :=
  (jobs.filter (fun job => job.id ∈ s.generated)).filterMap
    (fun job => (s.replies.lookup job.id).map (fun reply => (job, reply)))

def exchange (turn : Job × String) : List Message :=
  [⟨.user, turn.1.request.input⟩, ⟨.assistant, turn.2⟩]

theorem Faithful.compose_eq (hf : Faithful c s) (hcompose : c.setup.compose = compose) {job : Job}
    (hj : job ∈ s.accepted) :
    c.setup.compose job.request.input job.request.attachments = ⟨.user, job.request.input⟩ := by
  obtain ⟨text, hrequest⟩ := hf.own job hj
  rw [hrequest, hcompose]
  rfl

/-- The turns of submissions that succeeded are what their callers asked and were told. -/
theorem Faithful.flatMap_turn (hf : Faithful c s) (hcompose : c.setup.compose = compose)
    (hjobs : ∀ job ∈ jobs, job ∈ s.accepted) :
    (jobs.filter (fun job => job.id ∈ s.generated)).flatMap (s.turn c.setup) =
        (turnsOf s jobs).flatMap exchange ∧
      (turnsOf s jobs).map Prod.fst = jobs.filter (fun job => job.id ∈ s.generated) := by
  have htold := reachable_told hf.reachable
  induction jobs with
  | nil => exact ⟨rfl, rfl⟩
  | cons job rest ih =>
    obtain ⟨hturns, hfst⟩ := ih (fun other ho => hjobs other (List.mem_cons_of_mem _ ho))
    by_cases hg : job.id ∈ s.generated
    · obtain ⟨reply, hreply⟩ := Option.isSome_iff_exists.mp (htold job.id hg)
      have hof : turnsOf s (job :: rest) = (job, reply) :: turnsOf s rest := by
        simp [turnsOf, hg, hreply]
      have hturn : s.turn c.setup job = exchange (job, reply) := by
        rw [turn, hreply, hf.compose_eq hcompose (hjobs job List.mem_cons_self)]
        rfl
      rw [hof, List.filter_cons_of_pos (by simpa using hg), List.flatMap_cons,
        List.flatMap_cons, List.map_cons, hturn, hturns, hfst]
      exact ⟨rfl, rfl⟩
    · have hof : turnsOf s (job :: rest) = turnsOf s rest := by simp [turnsOf, hg]
      rw [hof, List.filter_cons_of_neg (by simpa using hg)]
      exact ⟨hturns, hfst⟩

/-- A conversation that was begun: its opening message, if the model accepts it, the turns, and the
user message of the current submission. -/
theorem Faithful.history_eq (hf : Faithful c s) (hcompose : c.setup.compose = compose)
    (hs : Kept c.setup [] c.key jobs s) (hjobs : jobs ≠ []) :
    ∃ waiting : Option Job,
      s.store.history c.key = (if c.model.acceptsSystem then [c.setup.primer] else []) ++
        (turnsOf s jobs).flatMap exchange ++
        waiting.toList.map (fun job => ⟨.user, job.request.input⟩) ∧
      ((turnsOf s jobs).map Prod.fst ++ waiting.toList).Sublist jobs ∧
      waiting.map c.setup.pending = s.current := by
  have haccepted : ∀ job ∈ jobs, job ∈ s.accepted := fun job hj => Faithful.accepted_of_suffix hs hj
  obtain ⟨hturns, hfst⟩ := hf.flatMap_turn hcompose haccepted
  have hopens : opens s.generated jobs = c.model.acceptsSystem := by
    rw [opens_uniform (fun job hj => by rw [hf.model (haccepted job hj)])]
    simp [hjobs]
  have hlog : s.logOf c.setup [] jobs =
      (if c.model.acceptsSystem then [c.setup.primer] else []) ++
        (turnsOf s jobs).flatMap exchange := by
    rw [logOf, hopens, hturns]
    rfl
  have hslot := reachable_slot hf.reachable
  rw [hs.history, hlog, hfst, pendingMessages]
  cases hc : s.current with
  | none => exact ⟨none, rfl, by simp, rfl⟩
  | some p =>
    obtain ⟨newest, hlast, rfl⟩ := hslot.newest p hc
    have hkey : newest.request.key = c.key := by
      obtain ⟨text, hrequest⟩ := hf.own newest (List.mem_of_getLast? hlast)
      rw [hrequest]
      rfl
    obtain ⟨front, job, rfl, hjob⟩ := hs.newest _ hc hkey
    have hsilent : job.id ∉ s.generated := by
      intro hm
      exact hslot.waits _ hc (hjob ▸ settled_of_generated hm)
    refine ⟨some job, ?_, ?_, by rw [hjob]; rfl⟩
    · have hmessage := hf.compose_eq hcompose (haccepted job (by simp))
      have hk : job.request.key = c.key := (congrArg Pending.key hjob).symm.trans hkey
      rw [hjob]
      simp [Setup.pending, Option.filter, hmessage, hk]
    · rw [List.filter_append]
      simp [hsilent]

/-- The conversation at a console is what was typed since it was cleared last. Whatever the worker
is at when a line is read or carried out, between two lines the conversation is empty, or it is the
opening message, if the model accepts it, then turns of a prompt and the reply to it, and then at
most the one prompt whose reply is awaited. These are prompts that were typed behind the last line
that cleared the conversation, in this order. No submission that was made, and no call that was
begun, before the conversation is cleared writes anything from then on. A model that refuses system
messages is sent none. -/
theorem chat_eq_typed {settings : ModelSettings} {prompt : String} {key : ConversationKey}
    (h : Loop.start.play (.ofSettings settings prompt key) ticks = some l) :
    (l.due = [] → l.state.store.history key = [] ∨
      ∃ (turns : List (Job × String)) (waiting : Option Job),
        l.state.store.history key =
          (if settings.languageModel.acceptsSystem then
            [⟨.system, prompt ++ formattingSuffix⟩] else []) ++
          turns.flatMap (fun turn => [⟨.user, turn.1.request.input⟩, ⟨.assistant, turn.2⟩]) ++
          waiting.toList.map (fun job => ⟨.user, job.request.input⟩) ∧
        ((turns.map Prod.fst ++ waiting.toList).map (fun job => job.request.input)).Sublist
          (typed (ticks.filterMap Tick.line?)) ∧
        (∀ turn ∈ turns, turn.1 ∈ l.state.accepted ∧
          ∀ text, (turn.1.id, text) ∈ l.state.replies ↔ text = turn.2) ∧
        waiting.map (Console.ofSettings settings prompt key).setup.pending = l.state.current) ∧
    (∀ rest, l.due = .foreign (.clear key) :: rest → ∀ more l',
      l.play (.ofSettings settings prompt key) more = some l' →
      ∀ id, id ∈ l.state.called ∨ id ∈ l.state.accepted.map Job.id →
        l'.state.writesOf id = l.state.writesOf id) ∧
    (settings.languageModel.acceptsSystem = false →
      ∀ job ∈ l.state.accepted, ∀ m ∈ job.messages, m.role ≠ .system) := by
  let c := Console.ofSettings settings prompt key
  have hplain : ∀ input attachments, (c.setup.compose input attachments).role ≠ .system := by
    intro input attachments
    simp [c, Console.ofSettings, compose]
  obtain ⟨hf, hs⟩ := Loop.play_stage hplain h .start .start
  rw [List.nil_append] at hs
  refine ⟨?_, ?_, hf.spared⟩
  · intro hdue
    rw [hdue] at hs
    cases hs with
    | @steady _ jobs kept own order =>
      by_cases hjobs : jobs = []
      · exact .inl (hjobs ▸ kept).history_nil
      · obtain ⟨waiting, hhistory, hsub, hwaiting⟩ := hf.history_eq rfl kept hjobs
        refine .inr ⟨turnsOf l.state jobs, waiting, hhistory, ?_, ?_, hwaiting⟩
        · have hinputs := (hsub.map Job.request).trans (by simpa [requests] using order)
          simpa [Function.comp_def, Console.request] using hinputs.map Request.input
        · intro turn hm
          obtain ⟨job, hjob, hlookup⟩ := List.mem_filterMap.mp hm
          obtain ⟨reply, hreply, rfl⟩ := Option.map_eq_some_iff.mp hlookup
          exact ⟨Faithful.accepted_of_suffix kept (List.mem_filter.mp hjob).1,
            fun text => replies_iff hf.reachable hreply⟩
  · intro rest hdue more l' hmore id hid
    obtain ⟨moves, hmoves⟩ := Loop.play_state hmore
    have hm : id ∈ l.state.accepted.map Job.id := by
      rcases hid with hid | hid
      · exact (reachable_calls hf.reachable).order.subset (List.mem_append_left _ hid)
      · exact hid
    obtain ⟨job, hj, rfl⟩ := List.mem_map.mp hm
    exact play_done (hdue ▸ hs).idle hmoves ((reachable_numbered hf.reachable).id_le hj)

/-- The reply to a prompt arrives while the conversation is being cleared, and is lost. The next
prompt opens the conversation again. -/
theorem chat_eq_typed_cleared :
    ∃ ticks l, Loop.start.play (.ofSettings .default "p" ⟨"k"⟩) ticks = some l ∧
      typed (ticks.filterMap Tick.line?) = ["again"] ∧
      l.state.store.history ⟨"k"⟩ = [⟨.system, "p" ++ formattingSuffix⟩, ⟨.user, "again"⟩] ∧
      (l.state.store.history ⟨"k"⟩ = [] ∨ ∃ (turns : List (Job × String)) (waiting : Option Job),
        ((turns.map Prod.fst ++ waiting.toList).map (fun job => job.request.input)).Sublist
          ["again"] ∧
        waiting.map (Console.ofSettings .default "p" ⟨"k"⟩).setup.pending = l.state.current) := by
  let ticks : List Tick := [.read "hello" 0, .proceed, .worker (.take 1), .read " /clear" 2,
    .proceed, .worker (.finish (.ok "late")), .worker (.conclude 3), .proceed, .read "  again " 4,
    .proceed]
  have h := (Option.some_get (show (Loop.start.play (.ofSettings .default "p" ⟨"k"⟩)
    ticks).isSome = true by decide +kernel)).symm
  have htyped : typed (ticks.filterMap Tick.line?) = ["again"] := by decide +kernel
  obtain ⟨hchat, -⟩ := chat_eq_typed h
  refine ⟨ticks, _, h, htyped, by decide +kernel, ?_⟩
  rcases hchat (List.isEmpty_iff.mp (by decide +kernel)) with
    hnil | ⟨turns, waiting, -, hsub, -, hcurrent⟩
  · exact .inl hnil
  · exact .inr ⟨turns, waiting, htyped ▸ hsub, hcurrent⟩

end Console

end Parley
