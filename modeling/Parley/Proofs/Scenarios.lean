import Parley.Proofs.Writes
import Parley.Scenario.Step

namespace Parley.Scenario

def Member.view (m : Member) (shared : Store) : State := { m.state with store := m.store shared }

def Resolution.Ends (r : Resolution) : Event → Prop
  | .resolved _ completion => r.completion = some completion
  | .stopped _ => r.completion = none
  | _ => False

theorem Member.resolution?_ends {m : Member} {event : Event} {r : Resolution}
    (h : m.resolution? event = some r) : r.Ends event := by
  cases event with
  | resolved ticket completion =>
    obtain ⟨_, _, ⟨⟩⟩ := Option.bind_eq_some_iff.mp h
    rfl
  | stopped ticket =>
    obtain ⟨_, _, ⟨⟩⟩ := Option.bind_eq_some_iff.mp h
    rfl
  | _ => cases h

theorem play_foreign (setup : Setup) (s : State) (changes : List Write) :
    s.play setup (changes.map .foreign) =
      some { s with store := changes.foldl Store.apply s.store } := by
  induction changes generalizing s with
  | nil => rfl
  | cons change rest ih => exact ih _

/-- A member beside changes of the store that all share. -/
theorem Member.play_beside (m : Member) (shared : Store) (changes : List Write) :
    ∃ moves, (m.view shared).play m.setup moves =
      some (m.view (changes.foldl Store.apply shared)) := by
  cases ho : m.ownStore with
  | true => exact ⟨[], by simp [State.play, Member.view, Member.store, ho]⟩
  | false =>
    refine ⟨changes.map .foreign, ?_⟩
    rw [play_foreign]
    simp [Member.view, Member.store, ho]

namespace World

variable {w w' : World} {m : Member} {i : Nat} {action : Action} {change : Write}
  {P : Event → Prop} {changes : List Write}

def Recorded (w : World) (P : Event → Prop) : Prop := ∃ m ∈ w.members, ∃ e ∈ m.state.trace, P e

/-- All that is logged, and all ends that are to be reported, are in the records of the members. -/
structure Told (w : World) : Prop where
  logs : ∀ entry ∈ w.logs, w.Recorded (fun e => e.log? = some entry)
  ends : ∀ r ∈ w.resolved, w.Recorded r.Ends

/-- Each member gets from one world to another by a run: by moves of its own, and beside changes
that others make to its store. -/
def Runs (w w' : World) : Prop :=
  ∀ i m, w.member? i = some m → ∃ m' moves, w'.member? i = some m' ∧ m'.setup = m.setup ∧
    (m.view w.store).play m.setup moves = some (m'.view w'.store)

structure Leads (w w' : World) : Prop where
  size : w'.members.length = w.members.length
  runs : w.Runs w'
  told : w.Told → w'.Told

theorem Leads.trans {v : World} (h : v.Leads w) (h' : w.Leads w') : v.Leads w' where
  size := h'.size.trans h.size
  runs i m hm := by
    obtain ⟨m', moves, hm', hsetup, hplay⟩ := h.runs i m hm
    obtain ⟨m'', more, hm'', hsetup', hmore⟩ := h'.runs i m' hm'
    refine ⟨m'', moves ++ more, hm'', hsetup'.trans hsetup, ?_⟩
    rw [State.play_append, hplay, Option.bind_some, ← hsetup]
    exact hmore
  told ht := h'.told (h.told ht)

theorem Recorded.after (hr : w.Recorded P) (h : w.Runs w') : w'.Recorded P := by
  obtain ⟨m, hm, e, he, hp⟩ := hr
  obtain ⟨i, hi⟩ := List.mem_iff_getElem?.mp hm
  obtain ⟨m', moves, hm', -, hplay⟩ := h i m hi
  exact ⟨m', List.mem_of_getElem? hm', e, (State.play_extends hplay).subset he, hp⟩

theorem leads_of_runs (size : w'.members.length = w.members.length) (runs : w.Runs w')
    (logs : ∀ entry ∈ w'.logs, entry ∈ w.logs ∨ w'.Recorded (fun e => e.log? = some entry))
    (ends : ∀ r ∈ w'.resolved, r ∈ w.resolved ∨ w'.Recorded r.Ends) : w.Leads w' where
  size := size
  runs := runs
  told ht :=
    ⟨fun entry he => (logs entry he).elim (fun he => (ht.logs entry he).after runs) id,
      fun r hr => (ends r hr).elim (fun hr => (ht.ends r hr).after runs) id⟩

/-- All members are left as they are, beside changes of the store that they share. -/
theorem leads_beside (changes : List Write) (hm : w'.members = w.members)
    (hs : w'.store = changes.foldl Store.apply w.store) (logs : ∀ entry ∈ w'.logs, entry ∈ w.logs)
    (ends : ∀ r ∈ w'.resolved, r ∈ w.resolved) : w.Leads w' := by
  refine leads_of_runs (by rw [hm]) (fun i m hi => ?_) (fun entry he => .inl (logs entry he))
    (fun r hr => .inl (ends r hr))
  obtain ⟨moves, hplay⟩ := m.play_beside w.store changes
  exact ⟨m, moves, by rwa [member?, hm], rfl, hs ▸ hplay⟩

/-- A member runs, and the others see what becomes of their store. -/
theorem runs_set (after : Member) (changes : List Write) {moves : List Move}
    (hm : w.member? i = some m) (hsetup : after.setup = m.setup)
    (hplay : (m.view w.store).play m.setup moves =
      some (after.view (changes.foldl Store.apply w.store)))
    (hmembers : w'.members = w.members.set i after)
    (hstore : w'.store = changes.foldl Store.apply w.store) : w.Runs w' := by
  intro j other hj
  rw [hstore, member?, hmembers]
  by_cases hij : i = j
  · subst hij
    obtain rfl : m = other := Option.some.inj (hm.symm.trans hj)
    have hi : i < w.members.length := (List.getElem?_eq_some_iff.mp hm).1
    exact ⟨after, moves, by rw [List.getElem?_set_self hi], hsetup, hplay⟩
  · obtain ⟨moves, hbeside⟩ := other.play_beside w.store changes
    exact ⟨other, moves, by rw [List.getElem?_set_ne hij]; exact hj, rfl, hbeside⟩

theorem act_eq_some {handles : List Nat} :
    w.act i { m with handles } action = some w' ↔
      ∃ state, (m.view w.store).perform m.setup action = some state ∧
        w.update i { m with state := m.view w.store, handles } { m with state, handles } = w' := by
  simp only [act, Option.bind_eq_bind, Option.bind_eq_some_iff, Option.some.injEq]
  rfl

/-- The store that all share is changed by what a member with no store of its own writes. -/
theorem exists_changes {state : State} (before : Member) (handles : List Nat)
    (h : (m.view w.store).perform m.setup action = some state) :
    ∃ changes : List Write,
      (w.update i before { m with state, handles }).store = changes.foldl Store.apply w.store ∧
      Member.view { m with state, handles } (changes.foldl Store.apply w.store) = state := by
  cases ho : m.ownStore with
  | true => exact ⟨[], by simp [update], by simp [Member.view, Member.store]⟩
  | false =>
    obtain ⟨changes, -, hstore, -⟩ := State.perform_touches h
    have hshared : (changes.map Prod.snd).foldl Store.apply w.store = state.store := by
      rw [hstore, Store.applyAll, List.foldl_map]
      simp [Member.view, Member.store, ho]
    exact ⟨changes.map Prod.snd, by simp [update, hshared],
      by simp [Member.view, Member.store, hshared]⟩

/-- A member takes a step. -/
theorem act_leads {handles : List Nat} (hm : w.member? i = some m)
    (h : w.act i { m with handles } action = some w') : w.Leads w' := by
  obtain ⟨state, hstate, rfl⟩ := act_eq_some.mp h
  obtain ⟨changes, hstore, hview⟩ := exists_changes { m with state := m.view w.store, handles }
    handles (i := i) hstate
  have hplay : (m.view w.store).play m.setup [.own action] = some state := by
    simp [State.play, State.move, hstate]
  have hruns := runs_set { m with state, handles } changes hm rfl
    (hplay.trans (congrArg some hview.symm)) rfl hstore
  have hmem : { m with state, handles } ∈ w.members.set i { m with state, handles } :=
    List.mem_set (List.getElem?_eq_some_iff.mp hm).1 _
  refine leads_of_runs (List.length_set ..) hruns (fun entry he => ?_) (fun r hr => ?_)
  · refine (List.mem_append.mp he).imp_right (fun he => ?_)
    obtain ⟨e, he, hlog⟩ := List.mem_filterMap.mp he
    exact ⟨_, hmem, e, List.mem_of_mem_drop he, hlog⟩
  · refine (List.mem_append.mp hr).imp_right (fun hr => ?_)
    obtain ⟨e, he, hend⟩ := List.mem_filterMap.mp hr
    exact ⟨_, hmem, e, List.mem_of_mem_drop he, Member.resolution?_ends hend⟩

/-- Somebody else changes the store of a member. -/
theorem changeStore_leads (h : w.changeStore i change = some w') : w.Leads w' := by
  obtain ⟨m, hm, h⟩ := Option.bind_eq_some_iff.mp h
  split at h
  case isTrue ho =>
    obtain ⟨state, ⟨⟩, ⟨⟩⟩ := Option.bind_eq_some_iff.mp h
    let after : Member := { m with state := { m.state with store := m.state.store.apply change } }
    have hplay : (m.view w.store).play m.setup [.foreign change] = some (after.view w.store) := by
      simp [after, State.play, State.move, Member.view, Member.store, ho]
    exact leads_of_runs (List.length_set ..) (runs_set after [] hm rfl hplay rfl rfl)
      (fun _ => .inl) (fun _ => .inl)
  case isFalse =>
    cases h
    exact leads_beside [change] rfl rfl (fun _ => id) (fun _ => id)

theorem countReply_eq (w : World) (script : Script) :
    ∃ usage, w.countReply script = { w with usage } := by
  unfold countReply
  split <;> exact ⟨_, rfl⟩

/-- The worker of a member goes on. -/
theorem advanceMember_leads (h : w.advanceMember i = some w') : w.Leads w' := by
  obtain ⟨m, hm, h⟩ := Option.bind_eq_some_iff.mp h
  obtain ⟨action, -, h⟩ := Option.bind_eq_some_iff.mp h
  dsimp only at h
  split at h
  · obtain ⟨usage, hcounted⟩ := countReply_eq w ‹_›
    rw [hcounted] at h
    have hm : World.member? { w with usage } i = some m := hm
    have hsame : w.Leads { w with usage } :=
      leads_beside [] rfl rfl (fun _ => id) (fun _ => id)
    exact hsame.trans (act_leads hm h)
  · exact act_leads hm h

theorem settleWithin_leads (fuel : Nat) (w : World) : w.Leads (w.settleWithin fuel) := by
  induction fuel generalizing w with
  | zero => exact leads_beside [] rfl rfl (fun _ => id) (fun _ => id)
  | succ fuel ih =>
    simp only [settleWithin]
    split
    case h_1 v hv =>
      obtain ⟨i, -, hi⟩ := Option.bind_eq_some_iff.mp hv
      exact (advanceMember_leads hi).trans (ih v)
    case h_2 => exact leads_beside [] rfl rfl (fun _ => id) (fun _ => id)

theorem settle_leads (w : World) : w.Leads w.settle := settleWithin_leads _ w

theorem submit_leads {s : Submission} (h : w.submit i s = some w') : w.Leads w' := by
  obtain ⟨m, hm, h⟩ := Option.bind_eq_some_iff.mp h
  have hsame (scripts usage) : w.Leads { w with scripts, usage } :=
    leads_beside [] rfl rfl (fun _ => id) (fun _ => id)
  have hm (scripts usage) : World.member? { w with scripts, usage } i = some m := hm
  exact (hsame _ _).trans (act_leads (hm _ _) h)

/-- What a step does at once. -/
theorem perform_leads {step : Step} {answer : Answer} (h : w.perform step = some (w', answer)) :
    w.Leads w' := by
  cases step with
  | submit o s =>
    obtain ⟨v, hv, ⟨⟩⟩ := Option.map_eq_some_iff.mp h
    exact submit_leads hv
  | ask o s ending =>
    obtain ⟨v, hv, ⟨⟩⟩ := Option.map_eq_some_iff.mp h
    exact ((submit_leads hv).trans v.settle_leads).trans
      (leads_beside [] rfl rfl (fun _ => id) (fun _ => id))
  | cancel o | drop o =>
    obtain ⟨m, hm, h⟩ := Option.bind_eq_some_iff.mp h
    obtain ⟨v, hv, ⟨⟩⟩ := Option.bind_eq_some_iff.mp h
    exact act_leads hm hv
  | append o key message =>
    obtain ⟨v, hv, ⟨⟩⟩ := Option.bind_eq_some_iff.mp h
    exact changeStore_leads hv
  | pop o key =>
    obtain ⟨m, -, h⟩ := Option.bind_eq_some_iff.mp h
    obtain ⟨v, hv, ⟨⟩⟩ := Option.bind_eq_some_iff.mp h
    exact changeStore_leads hv
  | read o key | isEmpty o key =>
    obtain ⟨m, -, ⟨⟩⟩ := Option.bind_eq_some_iff.mp h
    exact leads_beside [] rfl rfl (fun _ => id) (fun _ => id)
  | clear key =>
    cases h
    exact leads_beside [.clear key] rfl rfl (fun _ => id) (fun _ => id)
  | finish handle ending | nothing | advance ms | size key =>
    cases h
    exact leads_beside [] rfl rfl (fun _ => id) (fun _ => id)

/-- A step of a scenario takes every member along a run. The running flags and the log entries that
it reports are those of the world behind it, and the ends are in the records of the members. -/
theorem step_leads {deferred : Bool} {step : Step} {report : Report}
    (h : w.step deferred step = some (w', report)) :
    w.Leads w' ∧ report.running = w'.running ∧ report.logs = w'.logs ∧
      (w.Told → ∀ r ∈ report.resolved, w'.Recorded r.Ends) := by
  obtain ⟨⟨v, answer⟩, hv, h⟩ := Option.bind_eq_some_iff.mp h
  have hstart : w.Leads { w with logs := [] } := leads_beside [] rfl rfl (by simp) (fun _ => id)
  have hat : w.Leads v := hstart.trans (perform_leads hv)
  dsimp only at h
  split at h
  · cases h
    exact ⟨hat, rfl, rfl, by simp⟩
  · cases h
    have hsettled : w.Leads v.settle := hat.trans v.settle_leads
    have hend : v.settle.Leads { v.settle with resolved := [] } :=
      leads_beside [] rfl rfl (fun _ => id) (by simp)
    refine ⟨hsettled.trans hend, rfl, rfl, fun ht r hr => ?_⟩
    exact (hsettled.told ht).ends r (List.mem_mergeSort.mp hr)

/-- The members are where runs from the start lead, and so is what is told of them. -/
structure Sound (setups : List (Setup × Bool)) (w : World) : Prop where
  size : w.members.length = setups.length
  reachable : ∀ i m, w.member? i = some m → (setups[i]?.map Prod.fst) = some m.setup ∧
    State.Reachable m.setup .empty (m.view w.store)
  told : w.Told

variable {setups : List (Setup × Bool)}

theorem sound_initial (setups : List (Setup × Bool)) : (initial setups).Sound setups where
  size := by simp [initial]
  reachable i m hm := by
    simp only [member?, initial, List.getElem?_map, Option.map_eq_some_iff] at hm
    obtain ⟨⟨setup, own⟩, hi, rfl⟩ := hm
    refine ⟨by simp [hi], ?_⟩
    cases own <;> exact State.reachable_initial
  told := ⟨by simp [initial], by simp [initial]⟩

theorem Sound.after (hs : w.Sound setups) (h : w.Leads w') : w'.Sound setups where
  size := h.size.trans hs.size
  reachable i m' hm' := by
    have hi : i < w.members.length := h.size ▸ (List.getElem?_eq_some_iff.mp hm').1
    obtain ⟨found, moves, hfound, hsetup, hplay⟩ :=
      h.runs i w.members[i] (List.getElem?_eq_getElem hi)
    obtain rfl : m' = found := Option.some.inj (hm'.symm.trans hfound)
    obtain ⟨hat, hr⟩ := hs.reachable i w.members[i] (List.getElem?_eq_getElem hi)
    rw [hsetup]
    exact ⟨hat, hr.play hplay⟩
  told := h.told hs.told

theorem play_sound {steps : List (Bool × Step)} {reports : List Report} (hs : w.Sound setups)
    (h : w.play steps = some reports) : ∀ report ∈ reports, ∃ v : World, v.Sound setups ∧
      report.running = v.running ∧
      (∀ entry ∈ report.logs, v.Recorded (fun e => e.log? = some entry)) ∧
      ∀ r ∈ report.resolved, v.Recorded r.Ends := by
  induction steps generalizing w reports with
  | nil =>
    cases h
    simp
  | cons step rest ih =>
    obtain ⟨⟨v, first⟩, hv, h⟩ := Option.bind_eq_some_iff.mp h
    obtain ⟨later, hlater, ⟨⟩⟩ := Option.bind_eq_some_iff.mp h
    obtain ⟨hleads, hrunning, hlogs, hends⟩ := step_leads hv
    have hnext := hs.after hleads
    intro report hm
    rcases List.mem_cons.mp hm with rfl | hm
    · exact ⟨v, hnext, hrunning, fun entry he => hnext.told.logs entry (hlogs ▸ he),
        hends hs.told⟩
    · exact ih hnext hlater report hm

/-- All that a scenario reports is so of reachable states: the running flags are theirs, and the log
entries and the ends are in their records. -/
theorem play_reachable {steps : List (Bool × Step)} {reports : List Report}
    (h : (initial setups).play steps = some reports) :
    ∀ report ∈ reports, ∃ w : World, w.Sound setups ∧ report.running = w.running ∧
      (∀ entry ∈ report.logs, w.Recorded (fun e => e.log? = some entry)) ∧
      ∀ r ∈ report.resolved, w.Recorded r.Ends :=
  play_sound (sound_initial setups) h

end World

end Parley.Scenario
