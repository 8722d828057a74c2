import Parley.Proofs.Current
import Parley.Proofs.Histories

namespace Parley.State

variable {setup : Setup} {store : Store} {s t : State} {p : Pending} {moves : List Move}

/-- On the run no job is lost: when the worker leaves, all that it was handed is settled. -/
def Lossless (setup : Setup) (store : Store) (moves : List Move) : Prop :=
  ∀ before m after t u, moves = before ++ m :: after →
    (initial store).play setup before = some t → t.move setup m = some u →
    u.worker.isGone = true → t.worker.isGone = true ∨ t.unsettled = []

theorem Lossless.before {m : Move} (h : Lossless setup store (moves ++ [m])) :
    Lossless setup store moves := by
  intro before m' after t u he ht hu
  exact h before m' (after ++ [m]) t u (by simp [he]) ht hu

def Underway (s : State) : Prop := ∀ p, s.current = some p → ∃ job ∈ s.unsettled, job.id = p.id

theorem Underway.step (hs : Underway s) (h : Effect setup s t)
    (hl : t.worker.isGone = true → s.worker.isGone = true ∨ s.unsettled = []) : Underway t := by
  intro p hc
  cases h with
  | rested closed idle =>
    rw [show s.current = some p from hc] at idle
    cases idle
  | refused request now idle dead =>
    rw [show s.current = some p from hc] at idle
    cases idle
  | stopped | debounced | generated | failed | hushed => cases hc
  | queued request now idle alive =>
    cases hc
    exact ⟨setup.job s request now, by simp [unsettled], rfl⟩
  | @discarded job result losing ended stale =>
    obtain ⟨other, hj, he⟩ := hs p hc
    rw [unsettled_eq ended] at hj
    rcases List.mem_cons.mp hj with rfl | hj
    · exact absurd he.symm (stale p hc)
    · exact ⟨other, hj, he⟩
  | @worked worker queue events step =>
    obtain ⟨job, hj, he⟩ := hs p hc
    rcases step.unsettled with hu | ⟨halive, hgone, _⟩
    · exact ⟨job, by rw [unsettled, hu]; exact hj, he⟩
    · rcases hl hgone with hg | hnone
      · rw [halive] at hg
        cases hg
      · rw [hnone] at hj
        cases hj

theorem play_underway (h : (initial store).play setup moves = some s)
    (hl : Lossless setup store moves) : Underway s := by
  revert hl
  refine play_induction (motive := fun moves s => Lossless setup store moves → Underway s)
    (fun _ p hc => by cases hc) ?_ h
  intro before t m u ht ih hm hl
  rcases move_effect hm with he | ⟨change, _, rfl⟩
  · exact (ih hl.before).step he (hl before m [] t u rfl ht hm)
  · exact ih hl.before

def Last (key : ConversationKey) (s : State) : Prop :=
  ∀ p, s.current = some p → p.key = key → s.store.last? key = some p.userMessage

theorem Last.step {key : ConversationKey} (hs : Last key s) (h : Effect setup s t) :
    Last key t := by
  intro p hc hk
  cases h with
  | stopped | debounced | generated | failed | hushed => cases hc
  | queued request now idle alive =>
    cases hc
    subst hk
    exact Setup.last?_opened request
  | refused request now idle dead =>
    rw [show s.current = some p from hc] at idle
    cases idle
  | rested | discarded | worked => exact hs p hc hk

theorem play_last {key : ConversationKey} (h : (initial store).play setup moves = some s)
    (hf : ∀ m ∈ moves, ¬ m.touches key) : Last key s := by
  revert hf
  refine play_induction (motive := fun moves s => (∀ m ∈ moves, ¬ m.touches key) → Last key s)
    (fun _ p hc => by cases hc) ?_ h
  intro before t m u ht ih hm hf
  have hs := ih (fun m' hm' => hf m' (List.mem_append_left _ hm'))
  rcases move_effect hm with he | ⟨change, rfl, rfl⟩
  · exact hs.step he
  · intro p hc hk
    have hne : change.key ≠ key := hf (.foreign change) (by simp)
    rw [Store.last?, Store.history_apply_of_ne hne]
    exact hs p hc hk

/-- The job of the current submission is the only unsettled one with its id. -/
theorem Slot.only_job (hn : Numbered s) (hb : Settlements s) (hs : Slot setup s)
    (hu : Underway s) (hc : s.current = some p) :
    ∃ job, s.unsettled.filter (fun job => job.id = p.id) = [job] ∧ p = setup.pending job := by
  obtain ⟨job, hj, hid⟩ := hu p hc
  have hids := hb.unsettled_nodup hn
  refine ⟨job, ?_, (hs.own hn hc (hb.known job hj) hid.symm).2⟩
  have hfilter : s.unsettled.filter (fun other => other.id = p.id) =
      s.unsettled.filter (· == job) := by
    apply List.filter_congr
    intro other ho
    rw [← hid, Bool.eq_iff_iff, decide_eq_true_iff, beq_iff_eq]
    exact ⟨List.inj_on_of_nodup_map hids ho hj, congrArg Job.id⟩
  rw [hfilter, List.filter_beq, List.count_eq_one_of_mem hids.of_map hj]
  rfl

/-- The running flag tells the truth. A current submission has exactly one unsettled job, its caller
still waits, nobody cancelled it, and its user message stands last unless others wrote to its
conversation. -/
theorem running_flag_truthful (h : (initial store).play setup moves = some s)
    (hl : Lossless setup store moves) :
    (s.running = true ↔ s.current.isSome = true) ∧
    ∀ p, s.current = some p →
      (∃ job, s.unsettled.filter (fun job => job.id = p.id) = [job] ∧ p = setup.pending job ∧
        job.ticket ∉ s.answered) ∧
      p.id ∉ s.cancelled ∧
      ((∀ m ∈ moves, ¬ m.touches p.key) → s.store.last? p.key = some p.userMessage) := by
  have hr : Reachable setup store s := ⟨moves, h⟩
  have hn := reachable_numbered hr
  have hs := reachable_slot hr
  refine ⟨by rw [hs.flag], ?_⟩
  intro p hc
  obtain ⟨job, hone, hp⟩ := hs.only_job hn (reachable_settlements hr) (play_underway h hl) hc
  have hj : job ∈ s.unsettled :=
    List.mem_of_mem_filter (hone ▸ List.mem_singleton_self job)
  refine ⟨⟨job, hone, hp, ?_⟩, hs.wanted p hc, fun hf => play_last h hf p hc rfl⟩
  exact (reachable_answers hr).waiting hn (unsettled_subset_undelivered hj)

/-- One submission on its way. -/
theorem running_flag_truthful_submitted :
    ∃ moves s p, (initial .empty).play ⟨"p", compose⟩ moves = some s ∧ s.current = some p ∧
      s.running = true ∧ p.id ∉ s.cancelled ∧ s.store.last? p.key = some p.userMessage := by
  let request : Request := ⟨⟨"k"⟩, "one", [], ⟨.mock, "m"⟩, 0, none, none⟩
  let moves : List Move := [.own (.submit request 0)]
  have h : (initial .empty).play ⟨"p", compose⟩ moves = some _ := rfl
  have hl : Lossless ⟨"p", compose⟩ .empty moves := by
    intro before m after t u he ht hu hg
    cases before with
    | nil =>
      obtain ⟨rfl, rfl⟩ := List.cons.inj he
      cases ht
      cases hu
      cases hg
    | cons m' rest => simp [moves] at he
  obtain ⟨hflag, hcurrent⟩ := running_flag_truthful h hl
  obtain ⟨_, hwanted, hlast⟩ := hcurrent _ rfl
  exact ⟨moves, _, _, h, rfl, hflag.mpr rfl, hwanted, hlast (by simp [moves, Move.touches])⟩

end Parley.State
