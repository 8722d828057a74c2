import Parley.Proofs.Current
import Parley.Proofs.Writes

namespace Parley

variable {setup : Setup} {store : Store} {key : ConversationKey} {history : List Message}
  {m : Message}

/-- A change that brings no system message. -/
def Write.Plain : Write → Prop
  | append _ message => message.role ≠ .system
  | removeLast _ | clear _ => True

/-- A change that takes nothing out of the conversation of `key`. -/
def Write.Keeps (key : ConversationKey) : Write → Prop
  | append _ _ => True
  | removeLast k | clear k => k ≠ key

namespace Setup

/-- A conversation that holds no system message, but for the opening message at its head. -/
def Headed (setup : Setup) (history : List Message) : Prop :=
  ∃ head rest, history = head ++ rest ∧ (head = [] ∨ head = [setup.primer]) ∧
    ∀ m ∈ rest, m.role ≠ .system

theorem headed_nil : setup.Headed [] := ⟨[], [], rfl, .inl rfl, by simp⟩

theorem headed_primer : setup.Headed [setup.primer] := ⟨_, [], rfl, .inr rfl, by simp⟩

theorem Headed.snoc (h : setup.Headed history) (hm : m.role ≠ .system) :
    setup.Headed (history ++ [m]) := by
  obtain ⟨head, rest, rfl, hhead, hrest⟩ := h
  refine ⟨head, rest ++ [m], List.append_assoc .., hhead, ?_⟩
  intro other ho
  rcases List.mem_append.mp ho with ho | ho
  · exact hrest other ho
  · exact List.mem_singleton.mp ho ▸ hm

theorem Headed.dropLast (h : setup.Headed history) : setup.Headed history.dropLast := by
  obtain ⟨head, rest, rfl, hhead, hrest⟩ := h
  rcases rest.eq_nil_or_concat with rfl | ⟨front, last, rfl⟩
  · rcases hhead with rfl | rfl <;> exact headed_nil
  · refine ⟨head, front, ?_, hhead, fun m hm => hrest m (by simp [hm])⟩
    rw [List.concat_eq_append, ← List.append_assoc, List.dropLast_concat]

theorem Headed.countP_le (h : setup.Headed history) :
    history.countP (fun m => m.role = .system) ≤ 1 := by
  obtain ⟨head, rest, rfl, hhead, hrest⟩ := h
  have hnone : rest.countP (fun m => m.role = .system) = 0 :=
    List.countP_eq_zero.mpr (fun m hm => by simpa using hrest m hm)
  rw [List.countP_append, hnone]
  rcases hhead with rfl | rfl <;> simp [primer]

theorem Headed.getElem? (h : setup.Headed history) {i : Nat} (hi : history[i]? = some m)
    (hm : m.role = .system) : i = 0 ∧ m = setup.primer := by
  obtain ⟨head, rest, rfl, rfl | rfl, hrest⟩ := h
  · exact absurd hm (hrest m (List.mem_of_getElem? hi))
  · cases i with
    | zero =>
      cases hi
      exact ⟨rfl, rfl⟩
    | succ i => exact absurd hm (hrest m (List.mem_of_getElem? hi))

/-- All conversations of a store are headed. -/
def Orderly (setup : Setup) (store : Store) : Prop := ∀ key, setup.Headed (store.history key)

theorem Orderly.apply (h : setup.Orderly store) {change : Write} (hc : change.Plain) :
    setup.Orderly (store.apply change) := by
  intro key
  by_cases hk : change.key = key
  · subst hk
    cases change with
    | append k m => simpa [Store.apply, Write.key] using (h k).snoc hc
    | removeLast k => simpa [Store.apply, Write.key] using (h k).dropLast
    | clear k => simpa [Store.apply, Write.key] using headed_nil
  · rw [Store.history_apply_of_ne hk]
    exact h key

theorem Orderly.applyAll {changes : List (Nat × Write)} (h : setup.Orderly store)
    (hc : ∀ change ∈ changes, change.2.Plain) : setup.Orderly (store.applyAll changes) := by
  induction changes generalizing store with
  | nil => exact h
  | cons change rest ih =>
    exact ih (h.apply (hc change List.mem_cons_self))
      (fun other ho => hc other (List.mem_cons_of_mem _ ho))

/-- An empty conversation may be opened. -/
theorem Orderly.primed (h : setup.Orderly store) (hempty : store.history key = []) :
    setup.Orderly (store.append key setup.primer) := by
  intro k
  rw [Store.history_append]
  split
  · rw [hempty]
    exact headed_primer
  · exact h k

theorem primes_iff {request : Request} : primes store request = true ↔
    store.history request.key = [] ∧ request.model.acceptsSystem = true := by
  simp [primes, Store.isEmpty]

theorem onBehalf_entries (setup : Setup) (id : Nat) (request : Request) (primed : Bool) :
    Write.onBehalf id (setup.entries request primed) =
      (if primed then [(id, .append request.key setup.primer)] else []) ++
        [(id, .append request.key (setup.compose request.input request.attachments))] := by
  cases primed <;> rfl

end Setup

namespace State

variable {s t u : State} {p : Pending} {action : Action} {changes : List (Nat × Write)}

/-- A step writes the opening message for a submission that it accepts, if one is due, and no other
system message. -/
theorem Touches.opening
    (hplain : ∀ input attachments, (setup.compose input attachments).role ≠ .system)
    (h : Touches setup s action t changes) :
    ∃ rest : List (Nat × Write), (∀ change ∈ rest, change.2.Plain) ∧
      ((t.accepted = s.accepted ∧ changes = rest) ∨
        ∃ job, t.accepted = s.accepted ++ [job] ∧
          changes = (if Setup.primes s.store job.request then
            [(job.id, .append job.request.key setup.primer)] else []) ++ rest) := by
  have hreversal : ∀ p : Pending, ∀ change ∈ Write.onBehalf p.id (p.reversal s.store),
      change.2.Plain := by
    intro p change hm
    rw [Pending.eq_of_mem_reversal hm]
    trivial
  cases h with
  | @opened request now t idle accepted =>
    refine ⟨[(s.lastId + 1, .append request.key (setup.compose request.input request.attachments))],
      ?_, .inr ⟨_, accepted, ?_⟩⟩
    · intro change hm
      rw [List.mem_singleton.mp hm]
      exact hplain _ _
    · exact setup.onBehalf_entries _ request _
  | @refused request now t idle accepted =>
    refine ⟨[(s.lastId + 1, .append request.key (setup.compose request.input request.attachments)),
      (s.lastId + 1, .removeLast request.key)], ?_, .inr ⟨_, accepted, ?_⟩⟩
    · intro change hm
      rcases List.mem_pair.mp hm with rfl | rfl
      · exact hplain _ _
      · trivial
    · rw [Write.onBehalf_append, setup.onBehalf_entries, List.append_assoc]
      rfl
  | debounced busy accepted => exact ⟨_, hreversal _, .inl ⟨accepted, rfl⟩⟩
  | givenUp other busy past accepted => exact ⟨_, hreversal _, .inl ⟨accepted, rfl⟩⟩
  | replied other busy past accepted =>
    refine ⟨_, ?_, .inl ⟨accepted, rfl⟩⟩
    intro change hm
    rw [List.mem_singleton.mp hm]
    simp [Write.Plain]
  | nothing other accepted => exact ⟨[], by simp, .inl ⟨accepted, rfl⟩⟩

theorem Touches.orderly
    (hplain : ∀ input attachments, (setup.compose input attachments).role ≠ .system)
    (hs : setup.Orderly s.store) (h : Touches setup s action t changes) :
    setup.Orderly (s.store.applyAll changes) := by
  obtain ⟨rest, hrest, ⟨-, rfl⟩ | ⟨job, -, rfl⟩⟩ := h.opening hplain
  · exact hs.applyAll hrest
  · split
    · rename_i hprimes
      exact (hs.primed (Setup.primes_iff.mp hprimes).1).applyAll hrest
    · exact hs.applyAll hrest

/-- A step appends a system message exactly if it is the opening message, for a submission that is
accepted and meets its conversation empty with a model that accepts it. -/
theorem Touches.system_iff
    (hplain : ∀ input attachments, (setup.compose input attachments).role ≠ .system)
    (h : Touches setup s action t changes) (hm : m.role = .system) {id : Nat} :
    (id, .append key m) ∈ changes ↔ m = setup.primer ∧ ∃ job,
      t.accepted = s.accepted ++ [job] ∧ job.id = id ∧ job.request.key = key ∧
      s.store.history key = [] ∧ job.request.model.acceptsSystem = true := by
  obtain ⟨rest, hrest, hcases⟩ := h.opening hplain
  have hnot : (id, .append key m) ∉ rest := fun hmem => hrest _ hmem hm
  rcases hcases with ⟨hsame, rfl⟩ | ⟨job, hjob, rfl⟩
  · refine iff_of_false hnot ?_
    rintro ⟨-, job, hjob, -⟩
    exact absurd (hsame.symm.trans hjob) (by simp)
  · constructor
    · intro hmem
      split at hmem
      · rename_i hprimes
        obtain ⟨hempty, haccepts⟩ := Setup.primes_iff.mp hprimes
        rcases List.mem_cons.mp hmem with heq | hmem
        · cases heq
          exact ⟨rfl, job, hjob, rfl, rfl, hempty, haccepts⟩
        · exact absurd hmem hnot
      · exact absurd hmem hnot
    · rintro ⟨rfl, other, hother, rfl, rfl, hempty, haccepts⟩
      obtain rfl := List.singleton_inj.mp (List.append_cancel_left (hjob.symm.trans hother))
      rw [if_pos (Setup.primes_iff.mpr ⟨hempty, haccepts⟩)]
      exact List.mem_append_left _ List.mem_cons_self

/-- The opening message is not taken back with the user message of a submission. -/
theorem head?_undo (hh : (store.history key).head? = some setup.primer)
    (hp : p.userMessage.role ≠ .system) :
    ((p.undo store).history key).head? = some setup.primer := by
  by_cases hk : p.key = key
  · subst hk
    unfold Pending.undo
    split
    · rename_i hlast
      rw [Store.history_removeLast, if_pos rfl]
      obtain ⟨rest, hrest⟩ := List.head?_eq_some_iff.mp hh
      rw [hrest]
      rcases rest.eq_nil_or_concat with rfl | ⟨front, last, rfl⟩
      · simp only [Store.last?, hrest, List.getLast?_singleton, Option.some.injEq] at hlast
        exact absurd (congrArg Message.role hlast).symm hp
      · rw [List.concat_eq_append, ← List.cons_append, List.dropLast_concat]
        rfl
    · exact hh
  · rw [Pending.history_undo_of_ne hk]
    exact hh

theorem head?_append {k : ConversationKey} {message : Message}
    (hh : (store.history key).head? = some m) :
    ((store.append k message).history key).head? = some m := by
  rw [Store.history_append]
  split
  · rename_i hk
    rw [← hk, List.head?_append, hh]
    rfl
  · exact hh

theorem head?_apply {change : Write} (hc : change.Keeps key)
    (hh : (store.history key).head? = some m) :
    ((store.apply change).history key).head? = some m := by
  cases change with
  | append k message => exact head?_append hh
  | removeLast k | clear k =>
    have hk : k ≠ key := hc
    simpa [Store.apply, Ne.symm hk] using hh

theorem head?_opened {request : Request} (hh : (store.history key).head? = some m) :
    ((setup.opened store request).history key).head? = some m := by
  rw [Setup.opened]
  generalize setup.opening store request = ms
  induction ms generalizing store with
  | nil => exact hh
  | cons first rest ih => exact ih (head?_append hh)

/-- No step takes the opening message away. -/
theorem Effect.head?_kept
    (hplain : ∀ input attachments, (setup.compose input attachments).role ≠ .system)
    (hslot : Slot setup s) (hh : (s.store.history key).head? = some setup.primer)
    (h : Effect setup s t) : (t.store.history key).head? = some setup.primer := by
  have hcurrent : ∀ p, s.current = some p → p.userMessage.role ≠ .system := by
    intro p hc
    obtain ⟨job, -, rfl⟩ := hslot.newest p hc
    exact hplain _ _
  cases h with
  | rested | discarded | hushed | worked => exact hh
  | stopped closed busy | debounced request busy | failed ended busy own lost =>
    exact head?_undo hh (hcurrent _ busy)
  | queued request now idle alive => exact head?_opened hh
  | refused request now idle dead => exact head?_undo (head?_opened hh) (hplain _ _)
  | generated elapsed ended busy own => exact head?_append hh

theorem history_apply_nil {change : Write} (hc : ∀ m, change ≠ .append key m)
    (hempty : store.history key = []) : (store.apply change).history key = [] := by
  cases change with
  | append k m =>
    have hk : key ≠ k := fun hk => hc m (hk ▸ rfl)
    simpa [Store.apply, hk] using hempty
  | removeLast k =>
    rw [Store.apply, Store.history_removeLast]
    split
    · rename_i hk
      rw [← hk, hempty]
      rfl
    · exact hempty
  | clear k => simp [Store.apply, hempty]

theorem history_undo_nil (hempty : store.history key = []) : (p.undo store).history key = [] := by
  unfold Pending.undo
  split
  · exact @history_apply_nil _ _ (.removeLast p.key) (by simp) hempty
  · exact hempty

/-- An empty conversation stays so until a submission to it is accepted, or the current one
succeeds. -/
theorem Effect.empty_kept (hempty : s.store.history key = [])
    (hsub : t.submissions key = s.submissions key)
    (hsilent : ∀ p, s.current = some p → p.key = key → p.id ∉ t.generated)
    (h : Effect setup s t) :
    t.store.history key = [] ∧ ∀ p, t.current = some p → p.key = key → s.current = some p := by
  cases h with
  | rested | discarded | worked => exact ⟨hempty, fun p hc _ => hc⟩
  | hushed => exact ⟨hempty, by simp⟩
  | stopped closed busy | debounced request busy | failed ended busy own lost =>
    exact ⟨history_undo_nil hempty, by simp⟩
  | queued request now idle alive =>
    have hk : request.key ≠ key := by
      intro hk
      simp [submissions, State.accepted, Setup.job, hk] at hsub
    refine ⟨?_, ?_⟩
    · simpa [Setup.history_opened, Ne.symm hk] using hempty
    · rintro p hc rfl
      cases hc
      exact absurd rfl hk
  | refused request now idle dead =>
    have hk : request.key ≠ key := by
      intro hk
      simp [submissions, State.accepted, Setup.job, hk] at hsub
    refine ⟨history_undo_nil ?_, by simp [idle]⟩
    simpa [Setup.history_opened, Ne.symm hk] using hempty
  | @generated job text losing p elapsed ended busy own =>
    have hk : p.key ≠ key := fun hk => hsilent p busy hk (by simp [State.generated, own])
    exact ⟨by simpa [Ne.symm hk] using hempty, by simp⟩

theorem play_orderly {moves : List Move} (h : (initial store).play setup moves = some s)
    (hplain : ∀ input attachments, (setup.compose input attachments).role ≠ .system)
    (hstart : ∀ key, ∀ m ∈ store.history key, m.role ≠ .system)
    (hforeign : ∀ change, .foreign change ∈ moves → change.Plain) : setup.Orderly s.store := by
  revert hforeign
  refine play_induction (motive := fun moves s =>
    (∀ change, .foreign change ∈ moves → change.Plain) → setup.Orderly s.store) ?_ ?_ h
  · intro _ key
    exact ⟨[], _, rfl, .inl rfl, hstart key⟩
  · intro before t m u ht ih hm hforeign
    have hs := ih (fun change hc => hforeign change (List.mem_append_left _ hc))
    cases m with
    | own action =>
      obtain ⟨changes, -, hstore, htouches⟩ := perform_touches hm
      rw [hstore]
      exact htouches.orderly hplain hs
    | foreign change =>
      cases hm
      exact hs.apply (hforeign change (by simp))

/-- Nothing takes the opening message out of a conversation but others, and nobody opens a
conversation that holds it. -/
theorem play_headed {moves : List Move} (hr : Reachable setup store s)
    (h : s.play setup moves = some t)
    (hplain : ∀ input attachments, (setup.compose input attachments).role ≠ .system)
    (hkeeps : ∀ change, .foreign change ∈ moves → change.Keeps key)
    (hh : (s.store.history key).head? = some setup.primer) :
    (t.store.history key).head? = some setup.primer ∧
      ∀ id, (id, .append key setup.primer) ∈ t.writes →
        (id, .append key setup.primer) ∈ s.writes := by
  revert hkeeps
  refine play_induction (motive := fun moves t =>
    (∀ change, .foreign change ∈ moves → change.Keeps key) →
      (t.store.history key).head? = some setup.primer ∧
        ∀ id, (id, .append key setup.primer) ∈ t.writes →
          (id, .append key setup.primer) ∈ s.writes) ?_ ?_ h
  · exact fun _ => ⟨hh, fun _ hm => hm⟩
  · intro before t m u ht ih hm hkeeps
    obtain ⟨hhead, hold⟩ := ih (fun change hc => hkeeps change (List.mem_append_left _ hc))
    cases m with
    | own action =>
      obtain ⟨changes, hwrites, -, htouches⟩ := perform_touches hm
      refine ⟨(perform_effect hm).head?_kept hplain (reachable_slot (hr.play ht)) hhead, ?_⟩
      intro id hmem
      rw [hwrites] at hmem
      rcases List.mem_append.mp hmem with hmem | hmem
      · exact hold id hmem
      · obtain ⟨-, job, -, -, -, hempty, -⟩ := (htouches.system_iff hplain rfl).mp hmem
        rw [hempty] at hhead
        cases hhead
    | foreign change =>
      cases hm
      refine ⟨?_, hold⟩
      exact head?_apply (hkeeps change (by simp)) hhead

/-- A conversation that is empty stays so as long as nobody else appends to it, no submission to it
is accepted, and none of its submissions succeeds that was on its way. -/
theorem play_empty {moves : List Move} (h : s.play setup moves = some t)
    (hforeign : ∀ change m, .foreign change ∈ moves → change ≠ .append key m)
    (hempty : s.store.history key = []) (hsub : t.submissions key = s.submissions key)
    (hsilent : ∀ p, s.current = some p → p.key = key → p.id ∉ t.generated) :
    t.store.history key = [] := by
  suffices hboth : t.store.history key = [] ∧
      ∀ p, t.current = some p → p.key = key → s.current = some p from hboth.1
  revert hforeign hsub hsilent
  refine play_induction (motive := fun moves t =>
    (∀ change m, .foreign change ∈ moves → change ≠ .append key m) →
    t.submissions key = s.submissions key →
    (∀ p, s.current = some p → p.key = key → p.id ∉ t.generated) →
    t.store.history key = [] ∧ ∀ p, t.current = some p → p.key = key → s.current = some p) ?_ ?_ h
  · exact fun _ _ _ => ⟨hempty, fun _ hc _ => hc⟩
  · intro before t m u ht ih hm hforeign hsub hsilent
    have hgrows : t.trace <+: u.trace := (@play_extends setup t u [m] (by simp [play, hm]))
    have hsubt : t.submissions key = s.submissions key := by
      have hfirst : s.submissions key <+: t.submissions key :=
        ((play_extends ht).filterMap _).filter _
      have hthen : t.submissions key <+: u.submissions key := (hgrows.filterMap _).filter _
      rw [hsub] at hthen
      exact hthen.eq_of_length (Nat.le_antisymm hthen.length_le hfirst.length_le)
    have hsilentt : ∀ p, s.current = some p → p.key = key → p.id ∉ t.generated :=
      fun p hc hk hg => hsilent p hc hk ((hgrows.filterMap _).subset hg)
    obtain ⟨hnil, hold⟩ := ih
      (fun change m hc => hforeign change m (List.mem_append_left _ hc)) hsubt hsilentt
    cases m with
    | own action =>
      obtain ⟨hkept, hcurrent⟩ := (perform_effect hm).empty_kept hnil (hsub.trans hsubt.symm)
        (fun p hc hk => hsilent p (hold p hc hk) hk)
      exact ⟨hkept, fun p hc hk => hold p (hcurrent p hc hk) hk⟩
    | foreign change =>
      cases hm
      exact ⟨history_apply_nil (fun m => hforeign change m (by simp)) hnil, hold⟩

/-- A conversation is opened at most once in its life, and only at its head. Others may clear
conversations, take last messages away and append what users and assistants say. No conversation
holds a system message but the opening one, at its head. A submission appends that message exactly
if it is accepted and meets its conversation empty with a model that accepts it. What is opened
stays so, and is not opened again, until others take messages away, whatever becomes of the
submission that opened it. What was cleared stays empty, to be opened again, until a submission to
it is accepted, unless one succeeds that was on its way, or others append to it. -/
theorem opened_once {moves : List Move} (h : (initial store).play setup moves = some s)
    (hplain : ∀ input attachments, (setup.compose input attachments).role ≠ .system)
    (hstart : ∀ key, ∀ m ∈ store.history key, m.role ≠ .system)
    (hforeign : ∀ change, .foreign change ∈ moves → change.Plain) :
    (∀ key, (s.store.history key).countP (fun m => m.role = .system) ≤ 1 ∧
      ∀ (i : Nat) m, (s.store.history key)[i]? = some m → m.role = .system →
        i = 0 ∧ m.content = setup.systemPrompt ++ formattingSuffix) ∧
    (∀ t action u, Passes setup (initial store) moves t (.own action) u →
      ∃ changes, u.writes = t.writes ++ changes ∧ u.store = t.store.applyAll changes ∧
        ∀ id key m, m.role = .system → ((id, .append key m) ∈ changes ↔ m = setup.primer ∧
          ∃ job, u.accepted = t.accepted ++ [job] ∧ job.id = id ∧ job.request.key = key ∧
            t.store.history key = [] ∧ job.request.model.acceptsSystem = true)) ∧
    (∀ more t key, s.play setup more = some t →
      (s.store.history key).head? = some setup.primer →
      (∀ change, .foreign change ∈ more → change.Keeps key) →
      (t.store.history key).head? = some setup.primer ∧
        ∀ id, (id, .append key setup.primer) ∈ t.writes →
          (id, .append key setup.primer) ∈ s.writes) ∧
    ∀ more t key, s.play setup more = some t → s.store.history key = [] →
      (∀ change m, .foreign change ∈ more → change ≠ .append key m) →
      t.submissions key = s.submissions key →
      (∀ p, s.current = some p → p.key = key → p.id ∉ t.generated) →
      t.store.history key = [] := by
  refine ⟨?_, ?_, ?_, ?_⟩
  · intro key
    have hheaded := play_orderly h hplain hstart hforeign key
    refine ⟨hheaded.countP_le, fun i m hi hm => ?_⟩
    obtain ⟨hzero, rfl⟩ := hheaded.getElem? hi hm
    exact ⟨hzero, rfl⟩
  · rintro t action u ⟨before, after, _, ht, hu⟩
    obtain ⟨changes, hwrites, hstore, htouches⟩ := perform_touches hu
    exact ⟨changes, hwrites, hstore, fun id key m hm => htouches.system_iff hplain hm⟩
  · exact fun more t key ht hh hkeeps => play_headed ⟨moves, h⟩ ht hplain hkeeps hh
  · exact fun more t key ht hempty happend hsub hsilent =>
      play_empty ht happend hempty hsub hsilent

/-- A first turn fails, and the second one is not opened again. Then somebody clears the
conversation, and the third one is. -/
theorem opened_once_cleared :
    ∃ moves s, (initial .empty).play ⟨"p", compose⟩ moves = some s ∧
      s.writes.filter (fun w => w.2 = .append ⟨"k"⟩ (Setup.primer ⟨"p", compose⟩)) =
        [(1, .append ⟨"k"⟩ (Setup.primer ⟨"p", compose⟩)),
          (3, .append ⟨"k"⟩ (Setup.primer ⟨"p", compose⟩))] ∧
      (s.store.history ⟨"k"⟩).countP (fun m => m.role = .system) ≤ 1 ∧
      s.store.history ⟨"k"⟩ = [Setup.primer ⟨"p", compose⟩, ⟨.user, "three"⟩] := by
  let request (input : String) : Request := ⟨⟨"k"⟩, input, [], ⟨.mock, "m"⟩, 0, none, none⟩
  let moves : List Move := [.own (.submit (request "one") 0), .own (.take 1),
    .own (.finish (.error .emptyResponse)), .own (.conclude 2), .own (.audit (some ⟨0, 0, 0⟩)),
    .own .deliver, .own (.submit (request "two") 3), .own (.take 4), .own (.finish (.ok "2")),
    .own (.conclude 5), .foreign (.clear ⟨"k"⟩), .own (.submit (request "three") 6)]
  have h : (initial .empty).play ⟨"p", compose⟩ moves = some _ := rfl
  have hplain : ∀ input attachments, (compose input attachments).role ≠ .system := by
    simp [compose]
  have hforeign : ∀ change, .foreign change ∈ moves → change.Plain := by
    intro change hm
    obtain rfl : change = .clear ⟨"k"⟩ := by simpa [moves] using hm
    trivial
  obtain ⟨hhead, -⟩ := opened_once h hplain (by simp) hforeign
  exact ⟨moves, _, h, by decide +kernel, (hhead ⟨"k"⟩).1, by decide +kernel⟩

end State

end Parley
