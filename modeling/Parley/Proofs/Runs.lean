import Mathlib.Data.List.Induction
import Parley.Proofs.Effects

namespace Parley.State

variable {setup : Setup} {store : Store} {s t u : State} {m : Move} {moves : List Move}

theorem play_append (before after : List Move) :
    s.play setup (before ++ after) =
      (s.play setup before).bind (fun t => t.play setup after) := by
  induction before generalizing s with
  | nil => rfl
  | cons m rest ih =>
    simp only [List.cons_append, play]
    cases hm : s.move setup m with
    | none => rfl
    | some t => exact ih

theorem play_snoc :
    s.play setup (moves ++ [m]) = some u ↔
      ∃ t, s.play setup moves = some t ∧ t.move setup m = some u := by
  rw [play_append, Option.bind_eq_some_iff]
  simp only [play, Option.bind_fun_some]

/-- A run grows at its end, so a fact may speak of the moves so far as well as of the state. -/
theorem play_induction {motive : List Move → State → Prop} (start : motive [] s)
    (step : ∀ moves t m u, s.play setup moves = some t → motive moves t →
      t.move setup m = some u → motive (moves ++ [m]) u)
    (h : s.play setup moves = some t) : motive moves t := by
  induction moves using List.reverseRecOn generalizing t with
  | nil =>
    cases h
    exact start
  | append_singleton before m ih =>
    obtain ⟨u, hu, hm⟩ := play_snoc.mp h
    exact step before u m t hu (ih hu) hm

/-- What outlives every step, and every change that others make to the store, outlives a run. -/
theorem play_preserves {P : State → Prop} (start : P s)
    (step : ∀ t u, P t → Effect setup t u → P u)
    (foreign : ∀ t store, P t → P { t with store := store })
    (h : s.play setup moves = some t) : P t := by
  refine play_induction (motive := fun _ => P) start ?_ h
  intro _ t m u _ ht hm
  rcases move_effect hm with he | ⟨change, _, rfl⟩
  · exact step t u ht he
  · exact foreign t _ ht

theorem run_step {action : Action} {rest : List Action} (h : s.perform setup action = some t) :
    s.run setup (action :: rest) = t.run setup rest := by
  rw [run, List.map_cons, play, move, h, Option.bind_some, run]

theorem run_append {first : List Action} (h : s.run setup first = some t) (second : List Action) :
    s.run setup (first ++ second) = t.run setup second := by
  rw [run, List.map_append, play_append, ← run, h, Option.bind_some, run]

theorem Effect.trace_extends (h : Effect setup s t) : s.trace <+: t.trace := by
  cases h with
  | refused request now idle dead => exact ⟨_, (List.append_assoc _ _ _).symm⟩
  | rested => exact List.prefix_refl _
  | _ => exact List.prefix_append _ _

/-- What is recorded stays so. -/
theorem play_extends (h : s.play setup moves = some t) : s.trace <+: t.trace :=
  play_preserves (P := fun u => s.trace <+: u.trace) (List.prefix_refl _)
    (fun _ _ hu he => hu.trans he.trace_extends) (fun _ _ hu => hu) h

/-- On the run `moves` from `s`, the move `m` leads from `t` to `u`. -/
def Passes (setup : Setup) (s : State) (moves : List Move) (t : State) (m : Move) (u : State) :
    Prop :=
  ∃ before after, moves = before ++ m :: after ∧ s.play setup before = some t ∧
    t.move setup m = some u

/-- A run that passes a state goes on from there. -/
theorem Passes.rest {v : State} (hp : Passes setup s moves t m u)
    (h : s.play setup moves = some v) : ∃ after, u.play setup after = some v := by
  obtain ⟨before, after, rfl, ht, hu⟩ := hp
  rw [play_append, ht, Option.bind_some, play, hu, Option.bind_some] at h
  exact ⟨after, h⟩

/-- The states of an orchestrator that started over `store`, whatever others did to the store. -/
def Reachable (setup : Setup) (store : Store) (s : State) : Prop :=
  ∃ moves, (initial store).play setup moves = some s

theorem Reachable.play (hr : Reachable setup store s) (h : s.play setup moves = some t) :
    Reachable setup store t := by
  obtain ⟨before, hs⟩ := hr
  exact ⟨before ++ moves, by rw [play_append, hs]; exact h⟩

theorem Reachable.move (hr : Reachable setup store s) (h : s.move setup m = some t) :
    Reachable setup store t := by
  obtain ⟨before, hs⟩ := hr
  exact ⟨before ++ [m], play_snoc.mpr ⟨s, hs, h⟩⟩

/-- What holds at first, outlives every step and does not depend on the store, holds always. The
step may use all that is known of reachable states already. -/
theorem Reachable.induction {P : State → Prop} (hr : Reachable setup store s)
    (start : P (initial store))
    (step : ∀ s t, Reachable setup store s → P s → Effect setup s t → P t)
    (foreign : ∀ s store, P s → P { s with store := store }) : P s := by
  obtain ⟨moves, h⟩ := hr
  refine play_induction (motive := fun _ => P) start ?_ h
  intro before t m u ht hp hm
  rcases move_effect hm with he | ⟨change, _, rfl⟩
  · exact step t u ⟨before, ht⟩ hp he
  · exact foreign t _ hp

/-- What outlives every step outlives a run that has the store to itself. -/
theorem Reachable.run_induction {P : State → Prop} {actions : List Action}
    (hr : Reachable setup store s) (start : P s)
    (step : ∀ t u, Reachable setup store t → P t → Effect setup t u → P u)
    (h : s.run setup actions = some t) : P t := by
  induction actions generalizing s with
  | nil =>
    cases h
    exact start
  | cons action rest ih =>
    obtain ⟨u, hu, hrest⟩ := Option.bind_eq_some_iff.mp h
    exact ih (hr.move hu) (step s u hr start (perform_effect hu)) hrest

theorem reachable_initial : Reachable setup store (initial store) := ⟨[], rfl⟩

end Parley.State
