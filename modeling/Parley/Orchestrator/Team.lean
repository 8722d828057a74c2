import Parley.Orchestrator.Action

namespace Parley

structure Team (ι : Type) where
  store : Store
  /-- The members, each with the store as it last left it. -/
  member : ι → State

namespace Team

variable {ι : Type} [DecidableEq ι]

def initial (store : Store) : Team ι := ⟨store, fun _ => .initial store⟩

def view (c : Team ι) (i : ι) : State := { c.member i with store := c.store }

def perform (setups : ι → Setup) (c : Team ι) (i : ι) (action : Action) : Option (Team ι) :=
  ((c.view i).perform (setups i) action).map
    (fun s => ⟨s.store, fun j => if j = i then s else c.member j⟩)

def play (setups : ι → Setup) (c : Team ι) : List (ι × Action) → Option (Team ι)
  | [] => some c
  | (i, action) :: rest => (c.perform setups i action).bind (fun c => play setups c rest)

def stepsOf (i : ι) (steps : List (ι × Action)) : List Action :=
  (steps.filter (fun step => step.1 = i)).map Prod.snd

end Team

end Parley
