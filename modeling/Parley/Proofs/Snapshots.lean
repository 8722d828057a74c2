import Parley.Client.Echo
import Parley.Proofs.Prompts
import Parley.Proofs.Skipped

namespace Parley

theorem echo_of_last {messages : List Message} {m : Message} (h : messages.getLast? = some m)
    (huser : m.role = .user) : echo messages = "Echo from Mock: " ++ m.content := by
  obtain ⟨front, rfl⟩ := List.getLast?_eq_some_iff.mp h
  simp [echo, lastUserText, huser]

namespace State

variable {setup : Setup} {store : Store} {s t : State} {job : Job} {p : Pending}
  {actions : List Action}

/-- The submission accepted last is the last one of its conversation. -/
theorem submissions_concat (hlast : s.accepted.getLast? = some job) :
    ∃ front, s.submissions job.request.key = front ++ [job] := by
  obtain ⟨front, hfront⟩ := List.getLast?_eq_some_iff.mp hlast
  exact ⟨front.filter (fun other => other.request.key = job.request.key),
    by simp [submissions, hfront]⟩

/-- While a submission is current its prompt is its conversation as it stands. -/
theorem prompt_eq_history {front : List Job} (hs : Slot setup s)
    (hc : s.current = some (setup.pending job))
    (hsub : s.submissions job.request.key = front ++ [job]) {start : List Message}
    (hm : Remembered setup start job.request.key s) :
    s.prompt setup start front job = s.store.history job.request.key := by
  have hsilent : job.id ∉ s.generated := fun hg => hs.waits _ hc (settled_of_generated hg)
  rw [hm, log, prime, turns, hsub, pendingMessages, hc, List.filter_append]
  simp [prompt, hsilent, Setup.pending, Option.filter]

/-- Every accepted submission went out behind the turns of submissions that succeeded before. -/
theorem prompt_parts (h : (initial store).run setup actions = some s) (hj : job ∈ s.accepted) :
    ∃ front back, s.submissions job.request.key = front ++ job :: back ∧
      job.messages = s.prompt setup (store.history job.request.key) front job := by
  have hm : job ∈ s.submissions job.request.key := List.mem_filter.mpr ⟨hj, by simp⟩
  obtain ⟨front, back, hsub⟩ := List.append_of_mem hm
  exact ⟨front, back, hsub, play_prompted h (by simp [Move.touches]) front job back hsub⟩

theorem prompt_getLast? (setup : Setup) (s : State) (start : List Message) (front : List Job)
    (job : Job) : (s.prompt setup start front job).getLast? =
      some (setup.compose job.request.input job.request.attachments) := by
  simp [prompt]

/-- A reply that entered a conversation is what the call of its submission came to. -/
def Verbatim (s : State) : Prop :=
  ∀ id result reply, (id, result, .generated reply) ∈ s.settlements →
    ∃ text, s.replies.lookup id = some text ∧ reply.message = ⟨.assistant, text⟩

theorem Verbatim.kept (hs : Verbatim s)
    (hb : ∀ id result reply, (id, result, .generated reply) ∈ t.settlements →
      (id, result, .generated reply) ∈ s.settlements)
    (hl : ∀ id ∈ s.generated, t.replies.lookup id = s.replies.lookup id) : Verbatim t := by
  intro id result reply hm
  have hm := hb id result reply hm
  rw [hl id (generated_of_settlement hm)]
  exact hs id result reply hm

theorem Verbatim.step (hr : Reachable setup store s) (hs : Verbatim s) (h : Effect setup s t) :
    Verbatim t := by
  cases h with
  | rested => exact hs.kept (fun _ _ _ hm => hm) (fun _ _ => rfl)
  | worked step =>
    refine hs.kept ?_ ?_
    · simp [settlements, step.filterMap_eq_nil]
    · intro id hm
      simp only [replies, List.filterMap_append]
      exact (reachable_told hr).lookup hm _
  | stopped | debounced | queued | refused | discarded | failed | hushed =>
    refine hs.kept ?_ ?_
    · simp [settlements, List.filterMap_cons]
    · simp [replies, List.filterMap_cons]
  | @generated job text losing p elapsed ended busy own =>
    intro id result reply hm
    have hm : (id, result, .generated reply) ∈ s.settlements ∨
        id = job.id ∧ result = .ok text ∧ reply = ⟨⟨.assistant, text⟩, elapsed⟩ := by
      simpa [settlements, List.filterMap_cons] using hm
    have htold : ∃ text, s.replies.lookup id = some text ∧ reply.message = ⟨.assistant, text⟩ := by
      rcases hm with hm | ⟨rfl, _, rfl⟩
      · exact hs id result reply hm
      · exact ⟨text, reachable_heard hr job text losing ended, rfl⟩
    simpa [replies, List.filterMap_cons] using htold

theorem reachable_verbatim (hr : Reachable setup store s) : Verbatim s :=
  hr.induction (fun _ _ _ hm => (nomatch hm)) (fun _ _ hr hs h => hs.step hr h) (fun _ _ hs => hs)

/-- What goes out with a submission while it is current: its conversation as it stands, which ends
with its own message, behind nothing but what the conversation held at first, its opening message,
and turns of earlier submissions that neither failed nor were cancelled. -/
structure Snapshot (setup : Setup) (store : Store) (s : State) (job : Job) : Prop where
  current : s.current = some (setup.pending job)
  fresh : job.messages = s.store.history job.request.key
  own : job.messages.getLast? = some (setup.compose job.request.input job.request.attachments)
  clean : ∃ (primed : Bool) (earlier : List Job), earlier.Sublist (s.submissions job.request.key) ∧
    (∀ other ∈ earlier, other.id < job.id ∧ other.id ∈ s.generated ∧ other.id ∉ s.cancelled ∧
      ∀ result error, (other.id, result, .failed error) ∉ s.settlements) ∧
    job.messages = store.history job.request.key ++ (if primed then [setup.primer] else []) ++
      earlier.flatMap (s.turn setup) ++ [setup.compose job.request.input job.request.attachments]

theorem snapshot_of_current (h : (initial store).run setup actions = some s) (hj : job ∈ s.accepted)
    (hc : s.current = some p) (own : p.id = job.id) : Snapshot setup store s job := by
  have hr : Reachable setup store s := ⟨_, h⟩
  have hn := reachable_numbered hr
  have hslot := reachable_slot hr
  have hids := (reachable_settlements hr).settledIds_nodup hn
  obtain ⟨hlast, rfl⟩ := hslot.own hn hc hj own
  obtain ⟨front, hsub⟩ := submissions_concat hlast
  have hmessages : job.messages = s.prompt setup (store.history job.request.key) front job :=
    play_prompted h (by simp [Move.touches]) front job [] hsub
  refine ⟨hc, ?_, ?_, ?_⟩
  · rw [hmessages]
    exact prompt_eq_history hslot hc hsub (play_remembered h (by simp [Move.touches]))
  · rw [hmessages]
    exact prompt_getLast? ..
  · refine ⟨(store.history job.request.key).isEmpty && opens s.generated (front ++ [job]),
      front.filter (fun other => other.id ∈ s.generated), ?_, ?_, hmessages⟩
    · rw [hsub]
      exact List.filter_sublist.trans (List.sublist_append_left front [job])
    · intro other ho
      obtain ⟨hfront, hg⟩ := List.mem_filter.mp ho
      have hg : other.id ∈ s.generated := of_decide_eq_true hg
      refine ⟨hn.earlier hsub hfront, hg, fun hcan => cancelled_silent hr hcan hg, ?_⟩
      intro result error hfailed
      -- Nothing is settled twice, and this one succeeded.
      obtain ⟨result', reply, hsucceeded⟩ := settlement_of_generated hg
      cases List.inj_on_of_nodup_map hids hfailed hsucceeded rfl

/-- A call starts only while its submission is current. -/
theorem current_of_take {now : Instant} (hr : Reachable setup store s) (h : s.take now = some t)
    (calling : t.worker = .calling job now) :
    job ∈ t.accepted ∧ ∃ p, t.current = some p ∧ p.id = job.id := by
  unfold take at h
  split at h
  · rename_i next rest idle queued
    dsimp only at h
    split at h
    · cases h
      cases calling
    · rename_i wanted
      cases h
      cases calling
      have hu : job ∈ s.unsettled := by simp [unsettled, queued]
      refine ⟨by simpa [accepted, emit] using (reachable_settlements hr).known job hu, ?_⟩
      exact (reachable_slot hr).superseded job hu (by simpa [isCancelled] using wanted)
  · cases h

/-- What the call of a submission came to is what this client says to its messages. -/
def AnsweredBy (client : List Message → String) (s : State) (job : Job) : Prop :=
  ∀ text, (job.id, text) ∈ s.replies → text = client job.messages

theorem AnsweredBy.lookup {client : List Message → String} {text : String}
    (hs : AnsweredBy client s job) (h : s.replies.lookup job.id = some text) :
    text = client job.messages := by
  obtain ⟨before, after, hsplit, -⟩ := List.lookup_eq_some_iff.mp h
  exact hs text (by rw [hsplit]; simp)

/-- The client that repeats what it hears answers a submission with that submission's own input. -/
theorem echoed_own {completion : Completion} {reply : Reply}
    (h : (initial store).run setup actions = some s)
    (huser : ∀ input attachments, (setup.compose input attachments).role = .user)
    (hj : job ∈ s.accepted) (hecho : AnsweredBy echo s job)
    (hm : (job.ticket, completion) ∈ s.completions) (hg : completion.outcome = .generated reply) :
    reply.message = ⟨.assistant, "Echo from Mock: " ++
      (setup.compose job.request.input job.request.attachments).content⟩ := by
  have hr : Reachable setup store s := ⟨_, h⟩
  rcases (reachable_informed hr).told job hj completion hm with ⟨result, hset⟩ | ⟨hskip, _⟩
  · rw [hg] at hset
    obtain ⟨text, htext, hreply⟩ := reachable_verbatim hr _ _ _ hset
    obtain ⟨front, _, _, hmessages⟩ := prompt_parts h hj
    have hlast := prompt_getLast? setup s (store.history job.request.key) front job
    rw [← hmessages] at hlast
    rw [hreply, hecho.lookup htext, echo_of_last hlast (huser _ _)]
  · cases hskip.symm.trans hg

/-- With the store to itself an orchestrator calls only for the current submission, and the call is
sent what the conversation holds at that moment, however long the submission waited for its turn:
the conversation as it was at first, the turns that succeeded, and last the submission's own
message. So the client that repeats what it hears answers every submission with that submission's
own input, whatever was said before. -/
theorem call_sent_conversation (h : (initial store).run setup actions = some s) :
    (∀ now t job, s.take now = some t → t.worker = .calling job now →
      Snapshot setup store t job) ∧
    (∀ job ∈ s.accepted, ∀ p, s.current = some p → p.id = job.id → Snapshot setup store s job) ∧
    ((∀ input attachments, (setup.compose input attachments).role = .user) →
      ∀ job ∈ s.accepted, AnsweredBy echo s job →
        ∀ completion reply, (job.ticket, completion) ∈ s.completions →
          completion.outcome = .generated reply →
          reply.message = ⟨.assistant, "Echo from Mock: " ++
            (setup.compose job.request.input job.request.attachments).content⟩) := by
  refine ⟨?_, ?_, ?_⟩
  · intro now t job htake calling
    have hstep : s.perform setup (.take now) = some t := htake
    have ht : (initial store).run setup (actions ++ [.take now]) = some t := by
      rw [run_append h, run_step hstep]
      rfl
    obtain ⟨hj, p, hc, own⟩ := current_of_take ⟨_, h⟩ htake calling
    exact snapshot_of_current ht hj hc own
  · intro job hj p hc own
    exact snapshot_of_current h hj hc own
  · intro huser job hj hecho completion reply hm hg
    exact echoed_own h huser hj hecho hm hg

/-- A submission waits behind the call of one that was cancelled. What that one said is not sent,
and does not come back. -/
theorem call_sent_conversation_after_cancelled :
    ∃ actions s t job after u completion reply,
      (initial .empty).run ⟨"p", compose⟩ actions = some s ∧ s.take 5 = some t ∧
      t.worker = .calling job 5 ∧ job.messages = t.store.history ⟨"k"⟩ ∧
      (initial .empty).run ⟨"p", compose⟩ (actions ++ after) = some u ∧
      (job.ticket, completion) ∈ u.completions ∧ completion.outcome = .generated reply ∧
      reply.message = ⟨.assistant, "Echo from Mock: two"⟩ := by
  let request (input : String) : Request := ⟨⟨"k"⟩, input, [], ⟨.mock, "m"⟩, 0, none, none⟩
  let actions : List Action := [.submit (request "one") 0, .take 1, .cancel,
    .submit (request "two") 2, .interrupt, .conclude 3, .audit (some ⟨0, 0, 0⟩), .deliver,
    .drained none]
  let after : List Action := [.take 5, .finish (.ok "Echo from Mock: two"), .conclude 6,
    .audit (some ⟨0, 0, 0⟩), .deliver]
  have h : (initial .empty).run ⟨"p", compose⟩ actions = some _ := rfl
  let job : Job := ⟨2, 1, request "two", [Setup.primer ⟨"p", compose⟩, ⟨.user, "two"⟩], 2⟩
  let reply : Reply := ⟨⟨.assistant, "Echo from Mock: two"⟩, ⟨4⟩⟩
  let completion : Completion := ⟨{ request "two" with elapsed := some ⟨4⟩ }, .generated reply⟩
  obtain ⟨u, hu, hreplies, hj, hm⟩ : ∃ u,
      (initial .empty).run ⟨"p", compose⟩ (actions ++ after) = some u ∧
      u.replies = [(2, "Echo from Mock: two")] ∧ job ∈ u.accepted ∧
      (job.ticket, completion) ∈ u.completions :=
    ⟨_, rfl, by decide +kernel, by decide +kernel, by decide +kernel⟩
  have hecho : AnsweredBy echo u job := by
    intro text htext
    rw [hreplies] at htext
    rw [(Prod.mk.inj (List.mem_singleton.mp htext)).2]
    decide +kernel
  have hsnapshot := (call_sent_conversation h).1 5 _ job rfl rfl
  have hreply :=
    (call_sent_conversation hu).2.2 (fun _ _ => rfl) job hj hecho completion reply hm rfl
  exact ⟨actions, _, _, job, after, u, completion, reply, h, rfl, rfl, hsnapshot.fresh, hu, hm, rfl,
    hreply⟩

end State

end Parley
