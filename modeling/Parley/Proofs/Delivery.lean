import Parley.Proofs.Answers
import Parley.Proofs.Completions

namespace Parley.State

variable {setup : Setup} {store : Store} {s t u : State} {m : Move} {moves : List Move} {job : Job}

def Served (s : State) : Prop :=
  (s.answered ++ s.undelivered.map Job.ticket).Perm (List.range s.tickets)

/-- Callers are answered who waited. -/
theorem Served.answered {tickets : List Nat} (hs : Served s) (ht : t.tickets = s.tickets)
    (ha : t.answered = s.answered ++ tickets)
    (hu : s.undelivered.map Job.ticket = tickets ++ t.undelivered.map Job.ticket) : Served t := by
  rw [Served, ht, ha, List.append_assoc, ← hu]
  exact hs

/-- A caller is answered at once. -/
theorem Served.turnedAway (hs : Served s) (ht : t.tickets = s.tickets + 1)
    (ha : t.answered = s.answered ++ [s.tickets])
    (hu : t.undelivered = s.undelivered) : Served t := by
  rw [Served, ht, ha, hu, List.range_succ, List.append_assoc]
  refine (List.perm_append_comm.append_left _).trans ?_
  rw [← List.append_assoc]
  exact hs.append_right [s.tickets]

/-- One more caller waits. -/
theorem Served.joined (hs : Served s) (ht : t.tickets = s.tickets + 1)
    (ha : t.answered = s.answered)
    (hu : t.undelivered.map Job.ticket = s.undelivered.map Job.ticket ++ [s.tickets]) :
    Served t := by
  rw [Served, ht, ha, hu, List.range_succ, ← List.append_assoc]
  exact hs.append_right [s.tickets]

theorem Served.step (hs : Served s) (h : Effect setup s t) : Served t := by
  cases h with
  | worked step => exact hs.answered rfl (by simp [State.answered]) step.answers
  | debounced request busy =>
    exact hs.turnedAway rfl (by simp [State.answered, List.filterMap_cons]) rfl
  | refused request now idle dead =>
    exact hs.turnedAway rfl (by simp [State.answered, List.filterMap_cons]) rfl
  | queued request now idle alive =>
    exact hs.joined rfl (by simp [State.answered]) (by simp [undelivered, Setup.job])
  | discarded ended | generated _ ended | failed ended | hushed ended =>
    refine @Served.answered s _ [] hs rfl ?_ ?_
    · simp [State.answered, List.filterMap_cons]
    · simp [undelivered, ended, Worker.undelivered?]
  | rested | stopped =>
    exact @Served.answered s _ [] hs rfl (by simp [State.answered, List.filterMap_cons]) rfl

theorem reachable_served (hr : Reachable setup store s) : Served s :=
  hr.induction (.refl _) (fun _ _ _ hs h => hs.step h) (fun _ _ hs => hs)

theorem Served.nodup (hs : Served s) : s.answered.Nodup :=
  (List.nodup_append.mp (hs.nodup_iff.mpr List.nodup_range)).1

/-- When nobody waits, everybody was answered. -/
theorem Served.everybody (hs : Served s) (hu : s.undelivered = []) {ticket : Nat}
    (h : ticket < s.tickets) : ticket ∈ s.answered := by
  have hm := hs.mem_iff.mpr (List.mem_range.mpr h)
  simpa [hu] using hm

theorem undelivered_eq_nil (hq : s.queue = []) (hw : s.worker = .idle ∨ s.worker.isGone = true) :
    s.undelivered = [] := by
  rw [undelivered, hq]
  rcases hw with hw | hw
  · rw [hw]
    rfl
  · obtain ⟨orphan, hc⟩ := Worker.eq_gone hw
    rw [hc]
    rfl

/-- Who leaves the queue is taken by the worker, or skipped at its end. -/
theorem WorkerStep.leaves {worker queue events} (h : WorkerStep s worker queue events)
    (hj : job ∈ s.queue) :
    job ∈ queue ∨ worker.unsettled? = some job ∨
      (job.ticket, ⟨job.request, .skipped⟩) ∈ events.filterMap Event.resolved? := by
  cases h with
  | skip idle next | call now idle next =>
    rw [next] at hj
    rcases List.mem_cons.mp hj with rfl | hj
    · exact .inr (.inl rfl)
    · exact .inl hj
  | die alive =>
    rw [losses_resolved]
    exact .inr (.inr (List.mem_map_of_mem (f := fun job => (job.ticket, _)) hj))
  | _ => exact .inl hj

theorem Effect.leaves (h : Effect setup s t) (hj : job ∈ s.queue) :
    job ∈ t.queue ∨ t.worker.unsettled? = some job ∨
      (job.ticket, ⟨job.request, .skipped⟩) ∈ t.completions := by
  cases h with
  | worked step =>
    rcases step.leaves hj with hq | hw | hm
    · exact .inl hq
    · exact .inr (.inl hw)
    · refine .inr (.inr ?_)
      rw [completions, List.filterMap_append]
      exact List.mem_append_right _ hm
  | queued => exact .inl (List.mem_append_left _ hj)
  | _ => exact .inl hj

theorem completions_subset (h : s.play setup moves = some t) : s.completions ⊆ t.completions :=
  ((play_extends h).sublist.filterMap _).subset

/-- Whom the end of the worker leaves with no answer. -/
theorem WorkerStep.stops {worker queue events} (h : WorkerStep s worker queue events) :
    events.filterMap Event.stopped? =
      if s.worker.isGone = false ∧ worker.isGone = true then
        s.worker.undelivered?.toList.map Job.ticket
      else [] := by
  cases h with
  | die alive => rw [losses_stopped, if_pos ⟨alive, rfl⟩]
  | @deliver job outcome losing audited => cases losing <;> simp [audited, Worker.isGone]
  | runOut idle empty => simp [idle, Worker.isGone, Worker.undelivered?]
  | _ => simp [Worker.isGone, *]

theorem Effect.stops (h : Effect setup s t) :
    t.stops = s.stops ++
      if s.worker.isGone = false ∧ t.worker.isGone = true then
        s.worker.undelivered?.toList.map Job.ticket
      else [] := by
  cases h with
  | worked step => simp only [State.stops, List.filterMap_append, step.stops]
  | discarded ended | generated _ ended | failed ended | hushed ended =>
    simp [State.stops, Worker.isGone]
  | _ => simp [State.stops]

/-- The worker does not come back. -/
theorem Effect.gone (h : Effect setup s t) (hg : s.worker.isGone = true) :
    t.worker.isGone = true := by
  cases h with
  | discarded ended | generated _ ended | failed ended | hushed ended =>
    simp [ended, Worker.isGone] at hg
  | worked step =>
    cases step with
    | outlive | runOut | die => rfl
    | _ => simp [Worker.isGone, *] at hg
  | _ => exact hg

theorem Passes.snoc {last : Move} (hp : Passes setup s moves t m u) :
    Passes setup s (moves ++ [last]) t m u := by
  obtain ⟨before, after, rfl, ht, hu⟩ := hp
  exact ⟨before, after ++ [last], by simp, ht, hu⟩

/-- As long as the worker is there nobody is left without an answer, and at its end only the caller
whose submission it holds. -/
theorem play_stops (h : (initial store).play setup moves = some s) :
    (s.worker.isGone = false ∧ s.stops = []) ∨
    s.worker.isGone = true ∧ ∃ t m u, Passes setup (initial store) moves t m u ∧
      t.worker.isGone = false ∧ u.worker.isGone = true ∧
      s.stops = t.worker.undelivered?.toList.map Job.ticket := by
  refine play_induction (motive := fun moves s => (s.worker.isGone = false ∧ s.stops = []) ∨
    s.worker.isGone = true ∧ ∃ t m u, Passes setup (initial store) moves t m u ∧
      t.worker.isGone = false ∧ u.worker.isGone = true ∧
      s.stops = t.worker.undelivered?.toList.map Job.ticket) (.inl ⟨rfl, rfl⟩) ?_ h
  intro before v m w hv ih hm
  rcases move_effect hm with he | ⟨change, _, rfl⟩
  · have hstops := he.stops
    rcases ih with ⟨halive, hnone⟩ | ⟨hgone, t, m', u, hp, ht, hu, hsame⟩
    · rw [hnone, List.nil_append] at hstops
      cases hw : w.worker.isGone with
      | false => exact .inl ⟨rfl, by simpa [hw] using hstops⟩
      | true =>
        rw [if_pos ⟨halive, hw⟩] at hstops
        exact .inr ⟨rfl, v, m, w, ⟨before, [], rfl, hv, hm⟩, halive, hw, hstops⟩
    · exact .inr ⟨he.gone hgone, t, m', u, hp.snoc, ht, hu, by simp [hstops, hgone, hsame]⟩
  · rcases ih with hnone | ⟨hgone, t, m', u, hp, h⟩
    · exact .inl hnone
    · exact .inr ⟨hgone, t, m', u, hp.snoc, h⟩

/-- Every caller is answered once. When the queue is empty and the worker idle or gone, everybody
was answered. Who leaves the queue is taken by the worker or skipped at its end, and only the
submission that the worker holds at its end is lost: its caller alone hears no more than that there
is no worker. Whoever gets a completion gets its own request back, the time of the reply apart. -/
theorem answered_once (h : (initial store).play setup moves = some s) :
    s.answered.Nodup ∧
    (s.queue = [] → s.worker = .idle ∨ s.worker.isGone = true →
      ∀ ticket < (requests moves).length, ticket ∈ s.answered) ∧
    (∀ t m u, Passes setup (initial store) moves t m u → ∀ job ∈ t.queue,
      job ∈ u.queue ∨ u.worker.unsettled? = some job ∨
        (job.ticket, ⟨job.request, .skipped⟩) ∈ s.completions) ∧
    (s.stops.length ≤ 1 ∧ (s.worker.isGone = false → s.stops = []) ∧
      (s.worker.isGone = true → ∃ t m u, Passes setup (initial store) moves t m u ∧
        t.worker.isGone = false ∧ u.worker.isGone = true ∧
        s.stops = t.worker.undelivered?.toList.map Job.ticket)) ∧
    ∀ ticket completion, (ticket, completion) ∈ s.completions →
      ∃ request, (requests moves)[ticket]? = some request ∧
        completion.request = { request with elapsed := completion.request.elapsed } := by
  have hr : Reachable setup store s := ⟨moves, h⟩
  have hserved := reachable_served hr
  have hreturned := play_returned h
  refine ⟨hserved.nodup, ?_, ?_, ?_, ?_⟩
  · intro hq hw ticket hlt
    exact hserved.everybody (undelivered_eq_nil hq hw) (hreturned.issued ▸ hlt)
  · intro t m u hp job hj
    obtain ⟨after, hrest⟩ := hp.rest h
    obtain ⟨_, _, _, _, hu⟩ := hp
    rcases move_effect hu with he | ⟨change, _, rfl⟩
    · rcases he.leaves hj with hq | hw | hm
      · exact .inl hq
      · exact .inr (.inl hw)
      · exact .inr (.inr (completions_subset hrest hm))
    · exact .inl hj
  · rcases play_stops h with ⟨halive, hnone⟩ | ⟨hgone, t, m, u, hp, ht, hu, hheld⟩
    · exact ⟨by simp [hnone], fun _ => hnone, fun hg => by simp [halive] at hg⟩
    · refine ⟨?_, fun ha => by simp [hgone] at ha, fun _ => ⟨t, m, u, hp, ht, hu, hheld⟩⟩
      rw [hheld]
      cases t.worker.undelivered? <;> simp
  · intro ticket completion hm
    obtain ⟨request, hget, hof, haway⟩ := hreturned.told ticket completion hm
    refine ⟨request, hget, ?_⟩
    by_cases hacc : ticket ∈ s.accepted.map Job.ticket
    · rw [hof hacc]
    · rw [haway hacc]

/-- The worker is torn down with one submission in its hands and another one in the queue. -/
theorem answered_once_torn_down :
    ∃ moves s, (initial .empty).play ⟨"p", compose⟩ moves = some s ∧ s.stops = [0] ∧
      s.stops.length ≤ 1 ∧ s.answered.Nodup ∧ ∀ ticket < 2, ticket ∈ s.answered := by
  let request (input : String) : Request := ⟨⟨"k"⟩, input, [], ⟨.mock, "m"⟩, 0, none, none⟩
  let moves : List Move := [.own (.submit (request "one") 0), .own (.take 1), .own .cancel,
    .own (.submit (request "two") 2), .own .tearDown]
  have h : (initial .empty).play ⟨"p", compose⟩ moves = some _ := rfl
  obtain ⟨honce, hall, _, ⟨hone, _, _⟩, _⟩ := answered_once h
  exact ⟨moves, _, h, by decide +kernel, hone, honce,
    hall (by decide +kernel) (.inr (by decide +kernel))⟩

end Parley.State
