import Parley.Proofs.Memory

namespace Parley.State

variable {setup : Setup} {store : Store} {s t : State} {key : ConversationKey} {job : Job}
  {start : List Message} {front : List Job}

/-- What goes out with a submission that follows those in `front` on its conversation, which held
`start` at first. -/
def prompt (setup : Setup) (s : State) (start : List Message) (front : List Job) (job : Job) :
    List Message :=
  start ++ (if start.isEmpty && opens s.generated (front ++ [job]) then [setup.primer] else []) ++
    (front.filter (fun other => other.id ∈ s.generated)).flatMap (s.turn setup) ++
    [setup.compose job.request.input job.request.attachments]

/-- Every submission to the conversation of `key` went out with what it should. -/
def Prompted (setup : Setup) (start : List Message) (key : ConversationKey) (s : State) : Prop :=
  ∀ front job back, s.submissions key = front ++ job :: back →
    job.messages = s.prompt setup start front job

/-- A prompt depends on the earlier submissions only. -/
theorem prompt_congr (hg : ∀ other ∈ front, other.id ∈ t.generated ↔ other.id ∈ s.generated)
    (hr : ∀ id ∈ s.generated, t.replies.lookup id = s.replies.lookup id) :
    t.prompt setup start front job = s.prompt setup start front job := by
  rw [prompt, prompt, opens_concat_congr hg, flatMap_turn_congr hg hr]

/-- Nobody is accepted, and nothing succeeds that another submission followed. -/
theorem Prompted.kept (hs : Prompted setup start key s) (ha : t.accepted = s.accepted)
    (hg : ∀ front job back, s.submissions key = front ++ job :: back →
      ∀ other ∈ front, other.id ∈ t.generated ↔ other.id ∈ s.generated)
    (hr : ∀ id ∈ s.generated, t.replies.lookup id = s.replies.lookup id) :
    Prompted setup start key t := by
  intro front job back hsub
  have hsub : s.submissions key = front ++ job :: back := by
    rw [← hsub, submissions, submissions, ha]
  rw [prompt_congr (hg front job back hsub) hr]
  exact hs front job back hsub

/-- A submission goes out with its conversation as it stands then. -/
theorem Prompted.admitted {request : Request} {now : Instant} (hn : Numbered s)
    (hb : Settlements s) (hm : Remembered setup start key s) (hs : Prompted setup start key s)
    (idle : s.current = none) : Prompted setup start key (s.admitted setup request now) := by
  have hsame : ∀ front (job : Job),
      (s.admitted setup request now).prompt setup start front job =
        s.prompt setup start front job := by
    intro front job
    refine prompt_congr (fun _ _ => ?_) (fun _ _ => ?_)
    · simp [generated, State.admitted]
    · simp [replies, State.admitted]
  have hnew : (setup.job s request now).id ∉ (s.admitted setup request now).generated := by
    simpa [generated, State.admitted, Setup.job] using hb.next_silent hn
  intro front job back hsub
  by_cases hk : request.key = key
  · have hgrown : (s.admitted setup request now).submissions key =
        s.submissions key ++ [setup.job s request now] := by
      simp [submissions, accepted, State.admitted, Setup.job, hk]
    rcases List.eq_nil_or_concat back with rfl | ⟨back, last, rfl⟩
    · -- The submission that was just accepted: its conversation holds the log and its message.
      obtain ⟨rfl, hjob⟩ := List.append_inj' (hgrown.symm.trans hsub) rfl
      obtain rfl := List.singleton_inj.mp hjob
      have hlog : (s.admitted setup request now).store.history key =
          (s.admitted setup request now).log setup start key ++
            (s.admitted setup request now).pendingMessages key := hm.admitted hn hb idle
      have hpending : (s.admitted setup request now).pendingMessages key =
          [setup.compose request.input request.attachments] := by
        simp [pendingMessages, State.admitted, Setup.pending, Setup.job, Option.filter, hk]
      have hmessages : (setup.job s request now).messages =
          (s.admitted setup request now).store.history key := by
        rw [← hk]
        rfl
      rw [hmessages, hlog, hpending, log, prime, turns, hgrown, List.filter_append]
      simp only [prompt, Setup.job] at hnew ⊢
      simp [hnew]
    · rw [hsame]
      refine hs front job back ?_
      rw [hgrown, List.concat_eq_append, ← List.cons_append, ← List.append_assoc] at hsub
      exact (List.append_inj' hsub rfl).1
  · rw [hsame]
    refine hs front job back ?_
    rw [← hsub]
    simp [submissions, accepted, State.admitted, Setup.job, hk]

theorem Prompted.step (hr : Reachable setup store s) (hm : Remembered setup start key s)
    (hs : Prompted setup start key s) (h : Effect setup s t) : Prompted setup start key t := by
  have hn := reachable_numbered hr
  have hb := reachable_settlements hr
  cases h with
  | rested => exact hs.kept rfl (fun _ _ _ _ _ _ => .rfl) (fun _ _ => rfl)
  | stopped | debounced | discarded | failed | hushed =>
    refine hs.kept (by simp [accepted, List.filterMap_cons]) (fun _ _ _ _ _ _ => ?_)
      (fun _ _ => ?_)
    · simp [generated, List.filterMap_cons]
    · simp [replies, List.filterMap_cons]
  | worked step =>
    refine hs.kept (by simp [accepted, step.filterMap_eq_nil]) (fun _ _ _ _ _ _ => ?_) ?_
    · simp [generated, step.filterMap_eq_nil]
    · intro id hg
      simp only [replies, List.filterMap_append]
      exact (reachable_told hr).lookup hg _
  | queued request now idle alive => exact hs.admitted hn hb hm idle
  | refused request now idle dead =>
    have hadmitted : Prompted setup start key (s.admitted setup request now) :=
      hs.admitted hn hb hm idle
    refine hadmitted.kept (by simp [accepted, State.admitted]) (fun _ _ _ _ _ _ => ?_)
      (fun _ _ => ?_)
    · simp [generated, State.admitted, List.filterMap_cons]
    · simp [replies, State.admitted, List.filterMap_cons]
  | @generated job text losing p elapsed ended busy own =>
    refine hs.kept (by simp [accepted]) ?_ (fun _ _ => by simp [replies, List.filterMap_cons])
    intro front next back hsub other ho
    -- What succeeds is the newest submission, and no other followed it.
    obtain ⟨newest, hlast, rfl⟩ := (reachable_slot hr).newest p busy
    have hnext : next ∈ s.submissions key := by rw [hsub]; simp
    have hle := hn.id_le (List.mem_filter.mp hnext).1
    have hlt := hn.earlier hsub ho
    have hid : job.id = s.lastId := own.symm.trans (hn.last_id hlast)
    have hne : other.id ≠ job.id := by omega
    simp [State.generated, List.filterMap_cons, hne]

theorem play_prompted {moves : List Move} (h : (initial store).play setup moves = some s)
    (hf : ∀ m ∈ moves, ¬ m.touches key) : Prompted setup (store.history key) key s := by
  revert hf
  refine play_induction (motive := fun moves s => (∀ m ∈ moves, ¬ m.touches key) →
    Prompted setup (store.history key) key s) ?_ ?_ h
  · intro _ front job back hsub
    simp [submissions, accepted, initial] at hsub
  · intro before t m u ht ih hm hf
    have hbefore : ∀ m ∈ before, ¬ m.touches key := fun m' hm' => hf m' (List.mem_append_left _ hm')
    rcases move_effect hm with he | ⟨change, _, rfl⟩
    · exact (ih hbefore).step ⟨before, ht⟩ (play_remembered ht hbefore) he
    · exact ih hbefore

/-- A conversation is opened by the first submission that meets it empty with a model that accepts
it. -/
theorem opens_iff {generated : List Nat} {jobs : List Job} :
    opens generated jobs = true ↔
      ∃ first opener rest, jobs = first ++ opener :: rest ∧
        opener.request.model.acceptsSystem = true ∧ ∀ other ∈ first, other.id ∉ generated := by
  induction jobs with
  | nil => simp [opens]
  | cons job jobs ih =>
    rw [opens, Bool.or_eq_true, Bool.and_eq_true, ih, decide_eq_true_iff]
    constructor
    · rintro (haccepts | ⟨hnew, first, opener, rest, rfl, haccepts, hfirst⟩)
      · exact ⟨[], job, jobs, rfl, haccepts, by simp⟩
      · refine ⟨job :: first, opener, rest, rfl, haccepts, ?_⟩
        intro other ho
        rcases List.mem_cons.mp ho with rfl | ho
        · exact hnew
        · exact hfirst other ho
    · rintro ⟨first, opener, rest, heq, haccepts, hfirst⟩
      cases first with
      | nil =>
        cases heq
        exact .inl haccepts
      | cons head tail =>
        cases heq
        exact .inr ⟨hfirst job List.mem_cons_self, tail, opener, rest, rfl, haccepts,
          fun other ho => hfirst other (List.mem_cons_of_mem _ ho)⟩

/-- Turns hold no system message if users are composed none. -/
theorem role_turn (hplain : ∀ input attachments, (setup.compose input attachments).role ≠ .system)
    {m : Message} (hm : m ∈ s.turn setup job) : m.role ≠ .system := by
  rcases List.mem_cons.mp hm with rfl | hm
  · exact hplain _ _
  · obtain ⟨text, _, rfl⟩ := List.mem_map.mp hm
    simp

/-- Over a store that was empty at first, a model that refuses system messages is sent the turns that
succeeded before and its own user message, behind the opening message if the conversation was opened
before. So, unless users are composed system messages, it is sent one exactly if an earlier
submission, for a model that accepts them, met the conversation still empty. -/
theorem system_sent_iff_opened {actions : List Action}
    (h : (initial .empty).run setup actions = some s) {back : List Job}
    (hsub : s.submissions job.request.key = front ++ job :: back)
    (hrefuses : job.request.model.acceptsSystem = false) :
    job.messages = (if opens s.generated front then [setup.primer] else []) ++
      (front.filter (fun other => other.id ∈ s.generated)).flatMap (s.turn setup) ++
      [setup.compose job.request.input job.request.attachments] ∧
    ((∀ input attachments, (setup.compose input attachments).role ≠ .system) →
      ((∃ m ∈ job.messages, m.role = .system) ↔
        ∃ first opener rest, front = first ++ opener :: rest ∧
          opener.request.model.acceptsSystem = true ∧
          ∀ other ∈ first, other.id ∉ s.generated)) := by
  have hmessages : job.messages = (if opens s.generated front then [setup.primer] else []) ++
      (front.filter (fun other => other.id ∈ s.generated)).flatMap (s.turn setup) ++
      [setup.compose job.request.input job.request.attachments] := by
    have hprompted : Prompted setup (Store.empty.history job.request.key) job.request.key s :=
      play_prompted h (by simp [Move.touches])
    rw [hprompted front job back hsub, prompt, opens_concat, hrefuses]
    simp
  refine ⟨hmessages, ?_⟩
  intro hplain
  rw [← opens_iff, hmessages]
  constructor
  · rintro ⟨m, hm, hrole⟩
    by_contra hclosed
    rcases List.mem_append.mp hm with hm | hm
    · simp only [hclosed, if_false, List.nil_append] at hm
      obtain ⟨other, _, hturn⟩ := List.mem_flatMap.mp hm
      exact role_turn hplain hturn hrole
    · rw [List.mem_singleton.mp hm] at hrole
      exact hplain _ _ hrole
  · intro hopened
    exact ⟨setup.primer, by simp [hopened], rfl⟩

/-- Two turns with a model that refuses system messages: the conversation is never opened. -/
theorem system_sent_iff_opened_refused_twice :
    ∃ actions s earlier job, (initial .empty).run ⟨"p", compose⟩ actions = some s ∧
      s.submissions ⟨"k"⟩ = [earlier, job] ∧ job.request.model.acceptsSystem = false ∧
      ¬ ∃ m ∈ job.messages, m.role = .system := by
  let request (input : String) : Request := ⟨⟨"k"⟩, input, [], ⟨.openai, "o1"⟩, 0, none, none⟩
  let actions : List Action := [.submit (request "a") 0, .take 1, .finish (.ok "answer to a"),
    .conclude 2, .audit (some ⟨0, 0, 0⟩), .deliver, .submit (request "b") 3]
  have h := (Option.some_get (show ((initial .empty).run ⟨"p", compose⟩ actions).isSome = true by
    decide +kernel)).symm
  let earlier : Job := ⟨1, 0, request "a", [⟨.user, "a"⟩], 0⟩
  let job : Job := ⟨2, 1, request "b", [⟨.user, "a"⟩, ⟨.assistant, "answer to a"⟩, ⟨.user, "b"⟩], 3⟩
  have hrefuses : (request "b").model.acceptsSystem = false := by decide +kernel
  obtain ⟨_, hsystem⟩ :=
    @system_sent_iff_opened _ _ job [earlier] _ h [] (by decide +kernel) hrefuses
  refine ⟨actions, _, earlier, job, h, by decide +kernel, hrefuses, ?_⟩
  intro hm
  obtain ⟨first, opener, rest, hfront, haccepts, _⟩ := (hsystem (by simp [compose])).mp hm
  have hopener : opener ∈ [earlier] := by rw [hfront]; simp
  rw [List.mem_singleton.mp hopener] at haccepts
  exact Bool.false_ne_true (hrefuses.symm.trans haccepts)

/-- A conversation is opened for one model, and the next turn is for another one, which refuses
system messages. It is sent one. -/
theorem system_sent_to_refusing :
    ∃ actions s job, (initial .empty).run ⟨"p", compose⟩ actions = some s ∧ job ∈ s.accepted ∧
      job.request.model.acceptsSystem = false ∧ ∃ m ∈ job.messages, m.role = .system := by
  let request (input : String) (model : LanguageModel) : Request :=
    ⟨⟨"k"⟩, input, [], model, 0, none, none⟩
  let actions : List Action := [.submit (request "a" ⟨.mock, "m"⟩) 0, .take 1,
    .finish (.ok "answer to a"), .conclude 2, .audit (some ⟨0, 0, 0⟩), .deliver,
    .submit (request "b" ⟨.openai, "o1-mini"⟩) 3]
  have h : (initial .empty).run ⟨"p", compose⟩ actions = some _ := rfl
  let primer := Setup.primer ⟨"p", compose⟩
  let job : Job := ⟨2, 1, request "b" ⟨.openai, "o1-mini"⟩,
    [primer, ⟨.user, "a"⟩, ⟨.assistant, "answer to a"⟩, ⟨.user, "b"⟩], 3⟩
  exact ⟨actions, _, job, h, by decide +kernel, by decide +kernel, primer, List.mem_cons_self, rfl⟩

end Parley.State
