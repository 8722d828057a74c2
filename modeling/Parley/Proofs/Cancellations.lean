import Parley.Proofs.Current

namespace Parley.State

variable {setup : Setup} {store : Store} {s t : State} {moves : List Move} {m : Move}
  {kind : Move → Bool}

theorem meetings_snoc (h : s.play setup moves = some t) :
    s.meetings setup kind (moves ++ [m]) =
      s.meetings setup kind moves + if t.current.isSome && kind m then 1 else 0 := by
  induction moves generalizing s with
  | nil =>
    obtain rfl := Option.some.inj h
    cases hm : s.move setup m <;> simp [meetings, hm]
  | cons first rest ih =>
    obtain ⟨u, hu, hrest⟩ := Option.bind_eq_some_iff.mp h
    simp only [List.cons_append, meetings, hu, Option.map_some, Option.getD_some, ih hrest]
    omega

/-- A move gives up the current submission if it asks for that, and no other. -/
theorem move_cancelled (h : s.move setup m = some t) :
    t.cancelled =
      (if m.submits || m.stops then s.current.toList.map Pending.id else []) ++ s.cancelled := by
  cases m with
  | foreign change =>
    cases h
    rfl
  | own action =>
    have hp : s.perform setup action = some t := h
    cases action with
    | submit request now =>
      obtain ⟨_, rfl⟩ := submit_of_perform hp
      exact (submit_frame request now).2.1
    | cancel | drop =>
      simp only [perform] at hp
      split at hp <;> cases hp
      cases hc : s.current with
      | some p =>
        simp only [drop, cancelCurrent, hc, abandon_eq]
        rfl
      | none =>
        simp only [drop, cancelCurrent, hc]
        rfl
    | _ => exact (perform_frame hp rfl rfl).2.2.1

/-- As many submissions are cancelled as moves met one and asked for it. -/
theorem play_cancelled (h : (initial store).play setup moves = some s) :
    s.cancelled.length = (initial store).meetings setup Move.submits moves +
      (initial store).meetings setup Move.stops moves := by
  refine play_induction (motive := fun moves s => s.cancelled.length =
    (initial store).meetings setup Move.submits moves +
      (initial store).meetings setup Move.stops moves) rfl ?_ h
  intro before t m u ht ih hm
  have hexclusive : m.submits = true → m.stops = false := by
    rcases m with (_ | _ | _) | _ <;> simp [Move.submits, Move.request?, Move.stops]
  rw [move_cancelled hm, meetings_snoc ht, meetings_snoc ht, List.length_append, ih]
  cases hc : t.current with
  | none => simp
  | some p =>
    cases hs : m.submits with
    | false =>
      cases m.stops with
      | false => simp
      | true =>
        simp
        omega
    | true =>
      simp only [hexclusive hs, Bool.or_false, Option.isSome_some, Bool.and_true, Bool.and_false,
        if_true, Bool.false_eq_true, if_false, Option.toList_some, List.map_cons, List.map_nil,
        List.length_singleton]
      omega

/-- Every cancellation is on record, and each is of another accepted submission. -/
structure Cancelled (s : State) : Prop where
  once : s.cancelled.Nodup
  known : s.cancelled ⊆ s.accepted.map Job.id
  noted : s.cancellations.length = s.cancelled.length

theorem Cancelled.kept (hs : Cancelled s) (hc : t.cancelled = s.cancelled)
    (ha : s.accepted ⊆ t.accepted) (hn : t.cancellations = s.cancellations) : Cancelled t where
  once := hc ▸ hs.once
  known := by
    rw [hc]
    exact List.Subset.trans hs.known (List.map_subset _ ha)
  noted := by rw [hn, hc, hs.noted]

/-- The current submission is given up. -/
theorem Cancelled.abandoned {p : Pending} (hslot : Slot setup s) (hs : Cancelled s)
    (busy : s.current = some p) (hc : t.cancelled = p.id :: s.cancelled)
    (ha : t.accepted = s.accepted) (hn : t.cancellations = s.cancellations ++ [p.key]) :
    Cancelled t where
  once := by
    rw [hc]
    exact List.nodup_cons.mpr ⟨hslot.wanted p busy, hs.once⟩
  known := by
    rw [hc, ha]
    obtain ⟨job, hlast, rfl⟩ := hslot.newest p busy
    exact List.cons_subset.mpr
      ⟨List.mem_map_of_mem (f := Job.id) (List.mem_of_getLast? hlast), hs.known⟩
  noted := by rw [hn, hc, List.length_append, hs.noted]; rfl

theorem Cancelled.step (hslot : Slot setup s) (hs : Cancelled s) (h : Effect setup s t) :
    Cancelled t := by
  cases h with
  | stopped closed busy | debounced request busy =>
    exact hs.abandoned hslot busy rfl (by simp [accepted])
      (by simp [cancellations, List.filterMap_cons])
  | worked step =>
    exact hs.kept rfl (by simp [accepted]) (by simp [cancellations, step.filterMap_eq_nil])
  | _ =>
    exact hs.kept rfl (by simp [accepted]) (by simp [cancellations, List.filterMap_cons])

theorem reachable_cancelled (hr : Reachable setup store s) : Cancelled s :=
  hr.induction ⟨.nil, List.nil_subset _, rfl⟩
    (fun _ _ hr hs h => hs.step (reachable_slot hr) h) (fun _ _ hs => ⟨hs.once, hs.known, hs.noted⟩)

/-- The log tells of every cancellation once. -/
theorem count_cancelled (s : State) :
    s.logged.count ⟨.info, "Cancelled running prompt"⟩ = s.cancellations.length := by
  rw [logged, cancellations]
  induction s.trace with
  | nil => rfl
  | cons e rest ih => cases e <;> simp [List.filterMap_cons, Event.log?, ih]

/-- The cancelled submissions are as many as those among the accepted ones that are cancelled. -/
theorem Cancelled.length_eq (hn : Numbered s) (hs : Cancelled s) :
    s.cancelled.length = s.accepted.countP (fun job => job.id ∈ s.cancelled) := by
  have hperm : s.cancelled.Perm ((s.accepted.map Job.id).filter (fun id => id ∈ s.cancelled)) := by
    refine (List.perm_ext_iff_of_nodup hs.once (hn.ids_nodup.filter _)).mpr ?_
    intro id
    simpa using fun hm => hs.known hm
  rw [hperm.length_eq, List.filter_map, List.length_map, List.countP_eq_length_filter]
  rfl

end Parley.State
