import Parley.Proofs.Memory
import Parley.Proofs.Writes

namespace Parley.State

variable {setup : Setup} {store : Store} {s t : State} {job : Job} {p : Pending}
  {changes : List Write}

/-- What a submission wrote behind its user message: nothing, the removal of that message, or the
reply that it succeeded with. -/
inductive Closing (s : State) (job : Job) : List Write → Prop
  | nothing (silent : job.id ∉ s.generated) : Closing s job []
  | takenBack (silent : job.id ∉ s.generated) : Closing s job [.removeLast job.request.key]
  | replied {text elapsed}
      (told : (job.id, .ok text, .generated ⟨⟨.assistant, text⟩, elapsed⟩) ∈ s.settlements) :
      Closing s job [.append job.request.key ⟨.assistant, text⟩]

/-- Every change is one of an accepted submission, and each of those wrote what it may. The current
one wrote no more than it opened with. -/
structure Footprints (setup : Setup) (s : State) : Prop where
  known : ∀ change ∈ s.writes, change.1 ∈ s.accepted.map Job.id
  each : ∀ job ∈ s.accepted, ∃ primed closing,
    s.writesOf job.id = setup.entries job.request primed ++ closing ∧ Closing s job closing
  current : ∀ job ∈ s.accepted, s.current = some (setup.pending job) →
    ∃ primed, s.writesOf job.id = setup.entries job.request primed

theorem Closing.kept (h : Closing s job changes) (hg : job.id ∈ t.generated → job.id ∈ s.generated)
    (hset : s.settlements ⊆ t.settlements) : Closing t job changes := by
  cases h with
  | nothing silent => exact .nothing (fun hm => silent (hg hm))
  | takenBack silent => exact .takenBack (fun hm => silent (hg hm))
  | replied told => exact .replied (hset told)

theorem writesOf_append {id : Nat} (h : t.writes = s.writes ++ Write.onBehalf id changes)
    (other : Nat) : t.writesOf other = s.writesOf other ++ if other = id then changes else [] := by
  rw [writesOf, h, List.filter_append, List.map_append]
  refine congrArg (s.writesOf other ++ ·) ?_
  by_cases he : other = id
  · simp [Write.onBehalf, he, List.filter_map, Function.comp_def]
  · simp [Write.onBehalf, he, Ne.symm he, List.filter_map, Function.comp_def]

/-- Nothing is written. -/
theorem Footprints.kept (hs : Footprints setup s) (hw : t.writes = s.writes)
    (ha : t.accepted = s.accepted) (hg : t.generated = s.generated)
    (hset : s.settlements ⊆ t.settlements)
    (hc : ∀ p, t.current = some p → s.current = some p) : Footprints setup t := by
  have hof : ∀ id, t.writesOf id = s.writesOf id := fun id => by rw [writesOf, writesOf, hw]
  refine ⟨by rw [hw, ha]; exact hs.known, ?_, ?_⟩
  · intro job hj
    obtain ⟨primed, closing, hwrites, hclosing⟩ := hs.each job (ha ▸ hj)
    exact ⟨primed, closing, (hof _).trans hwrites, hclosing.kept (fun hm => hg ▸ hm) hset⟩
  · intro job hj hcur
    obtain ⟨primed, hwrites⟩ := hs.current job (ha ▸ hj) (hc _ hcur)
    exact ⟨primed, (hof _).trans hwrites⟩

/-- The current submission comes to its end in the conversation. -/
theorem Footprints.closed (hn : Numbered t) (hs : Footprints setup s) (hj : job ∈ s.accepted)
    (busy : s.current = some (setup.pending job))
    (hw : t.writes = s.writes ++ Write.onBehalf job.id changes) (ha : t.accepted = s.accepted)
    (hg : ∀ id ∈ t.generated, id ≠ job.id → id ∈ s.generated)
    (hset : s.settlements ⊆ t.settlements) (hc : t.current = none)
    (hclosing : Closing t job changes) : Footprints setup t := by
  refine ⟨?_, ?_, by simp [hc]⟩
  · intro change hm
    rw [hw] at hm
    rw [ha]
    rcases List.mem_append.mp hm with hm | hm
    · exact hs.known change hm
    · obtain ⟨w, _, rfl⟩ := List.mem_map.mp hm
      exact List.mem_map_of_mem hj
  · intro other ho
    rw [writesOf_append hw]
    by_cases he : other.id = job.id
    · obtain rfl := List.inj_on_of_nodup_map hn.ids_nodup ho (ha ▸ hj) he
      obtain ⟨primed, hopen⟩ := hs.current other hj busy
      exact ⟨primed, changes, by rw [hopen, if_pos rfl], hclosing⟩
    · obtain ⟨primed, closing, hwrites, hother⟩ := hs.each other (ha ▸ ho)
      refine ⟨primed, closing, by rw [hwrites, if_neg he, List.append_nil], ?_⟩
      exact hother.kept (fun hm => hg _ hm he) hset

/-- The message of the current submission is taken back, if it stands last. -/
theorem Footprints.takenBack (hn : Numbered t) (hslot : Slot setup s) (hs : Footprints setup s)
    (busy : s.current = some p)
    (hw : t.writes = s.writes ++ Write.onBehalf p.id (p.reversal s.store))
    (ha : t.accepted = s.accepted) (hg : t.generated = s.generated)
    (hset : s.settlements ⊆ t.settlements) (hc : t.current = none) : Footprints setup t := by
  obtain ⟨job, hlast, rfl⟩ := hslot.newest p busy
  have hsilent : job.id ∉ t.generated := by
    rw [hg]
    exact fun hm => hslot.waits _ busy (settled_of_generated hm)
  refine hs.closed hn (List.mem_of_getLast? hlast) busy hw ha (fun id hm _ => hg ▸ hm) hset hc ?_
  unfold Pending.reversal
  split
  · exact .takenBack hsilent
  · exact .nothing hsilent

/-- A submission joins. -/
theorem Footprints.joined (primed : Bool) (hs : Footprints setup s)
    (hnew : job.id ∉ s.accepted.map Job.id) (hsilent : job.id ∉ t.generated)
    (hw : t.writes = s.writes ++ Write.onBehalf job.id (setup.entries job.request primed))
    (ha : t.accepted = s.accepted ++ [job]) (hg : t.generated = s.generated)
    (hset : s.settlements ⊆ t.settlements) (hc : t.current = some (setup.pending job)) :
    Footprints setup t := by
  have hfresh : s.writesOf job.id = [] := by
    rw [writesOf, List.map_eq_nil_iff, List.filter_eq_nil_iff]
    intro change hm he
    exact hnew (of_decide_eq_true he ▸ hs.known change hm)
  have hown : t.writesOf job.id = setup.entries job.request primed := by
    rw [writesOf_append hw, hfresh, if_pos rfl, List.nil_append]
  refine ⟨?_, ?_, ?_⟩
  · intro change hm
    rw [hw] at hm
    rw [ha, List.map_append]
    rcases List.mem_append.mp hm with hm | hm
    · exact List.mem_append_left _ (hs.known change hm)
    · obtain ⟨w, _, rfl⟩ := List.mem_map.mp hm
      exact List.mem_append_right _ List.mem_cons_self
  · intro other ho
    rw [ha] at ho
    rcases List.mem_append.mp ho with ho | ho
    · obtain ⟨primed', closing, hwrites, hother⟩ := hs.each other ho
      have hne : other.id ≠ job.id := fun he => hnew (he ▸ List.mem_map_of_mem ho)
      refine ⟨primed', closing, ?_, hother.kept (fun hm => hg ▸ hm) hset⟩
      rw [writesOf_append hw, hwrites, if_neg hne, List.append_nil]
    · obtain rfl := List.mem_singleton.mp ho
      exact ⟨primed, [], by rw [hown, List.append_nil], .nothing hsilent⟩
  · intro other ho hcur
    have he : other.id = job.id := congrArg Pending.id (Option.some.inj (hcur.symm.trans hc))
    rw [ha] at ho
    rcases List.mem_append.mp ho with ho | ho
    · exact absurd (he ▸ List.mem_map_of_mem ho) hnew
    · obtain rfl := List.mem_singleton.mp ho
      exact ⟨primed, hown⟩

theorem Numbered.fresh (hn : Numbered s) : s.lastId + 1 ∉ s.accepted.map Job.id := by
  rw [hn.ids, List.mem_range'_1]
  omega

theorem Footprints.admitted {request : Request} {now : Instant} (hn : Numbered s)
    (hb : Settlements s) (hs : Footprints setup s) :
    Footprints setup (s.admitted setup request now) := by
  refine hs.joined (Setup.primes s.store request) hn.fresh ?_ ?_ ?_ ?_ ?_ rfl
  · simpa [generated, State.admitted, Setup.job] using hb.next_silent hn
  · simp [writes, State.admitted]
    rfl
  · simp [accepted, State.admitted]
  · simp [generated, State.admitted]
  · simp [settlements, State.admitted]

theorem Footprints.step (hr : Reachable setup store s) (hs : Footprints setup s)
    (h : Effect setup s t) : Footprints setup t := by
  have hn := reachable_numbered hr
  have hb := reachable_settlements hr
  have hslot := reachable_slot hr
  have hnt : Numbered t := hn.step h
  cases h with
  | rested => exact hs.kept rfl rfl rfl (fun _ hm => hm) (fun _ hc => hc)
  | worked step =>
    exact hs.kept (by simp [writes, step.wrote]) (by simp [accepted, step.filterMap_eq_nil])
      (by simp [generated, step.filterMap_eq_nil]) (by simp [settlements]) (fun _ hc => hc)
  | discarded =>
    exact hs.kept (by simp [writes]) (by simp [accepted]) (by simp [generated])
      (by simp [settlements]) (fun _ hc => hc)
  | hushed ended busy own => exact absurd own (hslot.not_hushed busy ended)
  | stopped closed busy | debounced request busy | failed ended busy own lost =>
    exact hs.takenBack hnt hslot busy (by simp [writes, List.filterMap_cons]) (by simp [accepted])
      (by simp [generated, List.filterMap_cons]) (by simp [settlements]) rfl
  | queued request now idle alive =>
    have hadmitted : Footprints setup (s.admitted setup request now) := hs.admitted hn hb
    exact hadmitted.kept rfl rfl rfl (fun _ hm => hm) (fun _ hc => hc)
  | refused request now idle dead =>
    have hadmitted : Footprints setup (s.admitted setup request now) := hs.admitted hn hb
    have hj : setup.job s request now ∈ (s.admitted setup request now).accepted := by
      simp [accepted, State.admitted]
    refine hadmitted.closed hnt hj rfl ?_ (by simp [accepted, State.admitted]) ?_
      (by simp [settlements, State.admitted]) idle (.takenBack ?_)
    · change _ = _ ++ Write.onBehalf (s.lastId + 1) [.removeLast request.key]
      rw [← setup.reversal_opened s request now]
      simp [writes, State.admitted, List.filterMap_cons]
      rfl
    · intro id hm _
      simpa [generated, State.admitted, List.filterMap_cons] using hm
    · simpa [generated, Setup.job, List.filterMap_cons] using hb.next_silent hn
  | @generated job text losing p elapsed ended busy own =>
    obtain ⟨newest, hlast, rfl⟩ := hslot.newest p busy
    have hid : newest.id = job.id := own
    refine hs.closed hnt (List.mem_of_getLast? hlast) busy
      (by simp [writes, List.filterMap_cons]; rfl) (by simp [accepted]) ?_ (by simp [settlements])
      rfl (@Closing.replied _ _ text elapsed ?_)
    · intro id hm hne
      have hm : id ∈ s.generated ∨ id = job.id := by
        simpa [State.generated, List.filterMap_cons] using hm
      exact hm.resolve_right (fun he => hne (he.trans hid.symm))
    · simp [settlements, List.filterMap_cons, hid]

theorem reachable_footprints (hr : Reachable setup store s) : Footprints setup s :=
  hr.induction ⟨fun _ hm => (nomatch hm), fun _ hj => (nomatch hj), fun _ hj => (nomatch hj)⟩
    (fun _ _ hr hs h => hs.step hr h) (fun _ _ hs => ⟨hs.known, fun job hj =>
      let ⟨primed, closing, hw, hc⟩ := hs.each job hj
      ⟨primed, closing, hw, hc.kept (fun hm => hm) (fun _ hm => hm)⟩, hs.current⟩)

/-- A reply is appended exactly if the submission succeeded with it. -/
theorem Closing.append_iff (hids : s.settledIds.Nodup) (h : Closing s job changes) (m : Message) :
    .append job.request.key m ∈ changes ↔
      ∃ result elapsed, (job.id, result, .generated ⟨m, elapsed⟩) ∈ s.settlements := by
  have hsilent : job.id ∉ s.generated →
      ¬ ∃ result elapsed, (job.id, result, .generated ⟨m, elapsed⟩) ∈ s.settlements := by
    rintro hno ⟨result, elapsed, hm⟩
    exact hno (generated_of_settlement hm)
  cases h with
  | nothing silent => simp [hsilent silent]
  | takenBack silent => simp [hsilent silent]
  | @replied text elapsed told =>
    constructor
    · intro hm
      cases List.mem_singleton.mp hm
      exact ⟨_, elapsed, told⟩
    · rintro ⟨result, elapsed', hm⟩
      cases List.inj_on_of_nodup_map hids hm told rfl
      exact List.mem_cons_self

/-- A caller is told of a reply exactly if the submission succeeded with it. -/
theorem told_generated_iff {completion : Completion} (hr : Reachable setup store s)
    (hj : job ∈ s.accepted) (hm : (job.ticket, completion) ∈ s.completions) (m : Message) :
    (∃ result elapsed, (job.id, result, .generated ⟨m, elapsed⟩) ∈ s.settlements) ↔
      ∃ elapsed, completion.outcome = .generated ⟨m, elapsed⟩ := by
  have hids := (reachable_settlements hr).settledIds_nodup (reachable_numbered hr)
  rcases (reachable_informed hr).told job hj completion hm with ⟨result, hset⟩ | ⟨hskip, hnew⟩
  · constructor
    · rintro ⟨result', elapsed, hset'⟩
      have he := List.inj_on_of_nodup_map hids hset hset' rfl
      exact ⟨elapsed, (Prod.mk.inj (Prod.mk.inj he).2).2⟩
    · rintro ⟨elapsed, he⟩
      exact ⟨result, elapsed, he ▸ hset⟩
  · constructor
    · rintro ⟨result', elapsed, hset'⟩
      exact absurd (List.mem_map_of_mem hset') hnew
    · rintro ⟨elapsed, he⟩
      cases hskip.symm.trans he

theorem Effect.current_or_next (h : Effect setup s t) (hc : t.current = some p) :
    s.current = some p ∨ p.id = s.lastId + 1 := by
  cases h with
  | queued request now idle alive =>
    cases hc
    exact .inr rfl
  | rested | refused | discarded | worked => exact .inl hc
  | stopped | debounced | generated | failed | hushed => cases hc

/-- Every change of a step is on behalf of the current submission or of the one that it accepts. -/
theorem Touches.owner {action : Action} {changes : List (Nat × Write)}
    (h : Touches setup s action t changes) :
    ∃ id writes, changes = Write.onBehalf id writes ∧
      (id = s.lastId + 1 ∨ writes = [] ∨ ∃ p, s.current = some p ∧ id = p.id) := by
  cases h with
  | opened idle accepted => exact ⟨_, _, rfl, .inl rfl⟩
  | refused idle accepted => exact ⟨_, _, rfl, .inl rfl⟩
  | debounced busy accepted => exact ⟨_, _, rfl, .inr (.inr ⟨_, busy, rfl⟩)⟩
  | givenUp other busy past accepted => exact ⟨_, _, rfl, .inr (.inr ⟨_, busy, rfl⟩)⟩
  | replied other busy past accepted => exact ⟨_, _, rfl, .inr (.inr ⟨_, busy, rfl⟩)⟩
  | nothing other accepted => exact ⟨0, [], rfl, .inr (.inl rfl)⟩

/-- When no submission is current, those accepted so far have written all that they ever write. -/
theorem play_done {moves : List Move} (hc : s.current = none) (h : s.play setup moves = some t)
    {id : Nat} (hid : id ≤ s.lastId) : t.writesOf id = s.writesOf id := by
  suffices hall : s.lastId ≤ t.lastId ∧ (∀ p, t.current = some p → s.lastId < p.id) ∧
      t.writesOf id = s.writesOf id from hall.2.2
  refine play_induction (motive := fun _ t => s.lastId ≤ t.lastId ∧
    (∀ p, t.current = some p → s.lastId < p.id) ∧ t.writesOf id = s.writesOf id) ?_ ?_ h
  · exact ⟨Nat.le_refl _, by simp [hc], rfl⟩
  · intro before t m u _ ⟨hle, hlater, hsame⟩ hm
    cases m with
    | foreign change =>
      cases hm
      exact ⟨hle, hlater, hsame⟩
    | own action =>
      have he := perform_effect hm
      obtain ⟨changes, hwrites, -, htouches⟩ := perform_touches hm
      obtain ⟨owner, writes, rfl, howner⟩ := htouches.owner
      refine ⟨?_, ?_, ?_⟩
      · rcases he.accepted with ⟨_, hlast, _⟩ | ⟨_, _, _, hlast, _⟩ <;> omega
      · intro p hp
        rcases he.current_or_next hp with hp | hp
        · exact hlater p hp
        · omega
      · rw [writesOf_append hwrites, hsame]
        rcases howner with rfl | rfl | ⟨p, hp, rfl⟩
        · rw [if_neg (by omega), List.append_nil]
        · rw [ite_self, List.append_nil]
        · have hlt := hlater p hp
          rw [if_neg (by omega), List.append_nil]

theorem Closing.shape (h : Closing s job changes) :
    changes = [] ∨ changes = [.removeLast job.request.key] ∨
      ∃ text, changes = [.append job.request.key ⟨.assistant, text⟩] := by
  cases h with
  | nothing => exact .inl rfl
  | takenBack => exact .inr (.inl rfl)
  | replied => exact .inr (.inr ⟨_, rfl⟩)

/-- Whatever others do to the store, all that an orchestrator changes in it is of accepted
submissions. Each of them writes to its own conversation: the opening message at most once and its
user message once, and then its reply, exactly if it succeeds, or at most one removal. What a single
step writes is all that the step changes: a submission enters with its own messages in the step that
accepts it, one that is turned away writes nothing of its own, and what is taken back stands last
and is the user message of the submission that takes it back. -/
theorem bounded_footprint {moves : List Move} (h : (initial store).play setup moves = some s) :
    (∀ change ∈ s.writes, change.1 ∈ s.accepted.map Job.id) ∧
    (∀ job ∈ s.accepted, ∃ primed closing,
      s.writesOf job.id = setup.entries job.request primed ++ closing ∧
      (closing = [] ∨ closing = [.removeLast job.request.key] ∨
        ∃ text, closing = [.append job.request.key ⟨.assistant, text⟩]) ∧
      (∀ m, .append job.request.key m ∈ closing ↔
        ∃ result elapsed, (job.id, result, .generated ⟨m, elapsed⟩) ∈ s.settlements) ∧
      ∀ completion, (job.ticket, completion) ∈ s.completions →
        ∀ m, .append job.request.key m ∈ closing ↔
          ∃ elapsed, completion.outcome = .generated ⟨m, elapsed⟩) ∧
    ∀ t action u, Passes setup (initial store) moves t (.own action) u →
      (∀ p, t.current = some p → ∃ job ∈ t.accepted, p = setup.pending job) ∧
      ∃ changes, u.writes = t.writes ++ changes ∧ u.store = t.store.applyAll changes ∧
        Touches setup t action u changes := by
  have hr : Reachable setup store s := ⟨moves, h⟩
  have hs := reachable_footprints hr
  have hids := (reachable_settlements hr).settledIds_nodup (reachable_numbered hr)
  refine ⟨hs.known, ?_, ?_⟩
  · intro job hj
    obtain ⟨primed, closing, hwrites, hclosing⟩ := hs.each job hj
    refine ⟨primed, closing, hwrites, hclosing.shape, hclosing.append_iff hids, ?_⟩
    intro completion hm m
    exact (hclosing.append_iff hids m).trans (told_generated_iff hr hj hm m)
  · rintro t action u ⟨before, after, _, ht, hu⟩
    refine ⟨?_, perform_touches hu⟩
    intro p hc
    obtain ⟨job, hlast, hp⟩ := (reachable_slot ⟨before, ht⟩).newest p hc
    exact ⟨job, List.mem_of_getLast? hlast, hp⟩

/-- Somebody else's message stands behind that of a submission when it is cancelled: both stay. -/
theorem bounded_footprint_not_last :
    ∃ moves s job closing, (initial .empty).play ⟨"p", compose⟩ moves = some s ∧
      job ∈ s.accepted ∧ job.id ∈ s.cancelled ∧
      s.writesOf job.id = Setup.entries ⟨"p", compose⟩ job.request true ++ closing ∧ closing = [] ∧
      (∀ m, .append job.request.key m ∈ closing ↔
        ∃ result elapsed, (job.id, result, .generated ⟨m, elapsed⟩) ∈ s.settlements) ∧
      s.store.history ⟨"k"⟩ = [Setup.primer ⟨"p", compose⟩, ⟨.user, "one"⟩, ⟨.user, "other"⟩] := by
  let request : Request := ⟨⟨"k"⟩, "one", [], ⟨.mock, "m"⟩, 0, none, none⟩
  let moves : List Move := [.own (.submit request 0),
    .foreign (.append ⟨"k"⟩ ⟨.user, "other"⟩), .own .cancel, .own (.take 1), .own (.conclude 2)]
  have h : (initial .empty).play ⟨"p", compose⟩ moves = some _ := rfl
  let job : Job := ⟨1, 0, request, [Setup.primer ⟨"p", compose⟩, ⟨.user, "one"⟩], 0⟩
  obtain ⟨_, heach, _⟩ := bounded_footprint h
  obtain ⟨primed, closing, hwrites, _, hreply, _⟩ := heach job (by decide +kernel)
  have hopened : [Write.append ⟨"k"⟩ (Setup.primer ⟨"p", compose⟩), .append ⟨"k"⟩ ⟨.user, "one"⟩] =
      Setup.entries ⟨"p", compose⟩ request primed ++ closing := hwrites
  cases primed with
  | false => simp [Setup.entries, Setup.primer, compose, request] at hopened
  | true =>
    have hnone : closing = [] := (List.append_right_eq_self.mp hopened.symm)
    exact ⟨moves, _, job, closing, h, by decide +kernel, by decide +kernel, hwrites, hnone, hreply,
      by decide +kernel⟩

end Parley.State
