import Parley.Orchestrator.Worker

namespace Parley

inductive Progress
  | unsent
  | going
  | replied (result : Except ModelError String)
  /-- The call did as it was told and stopped. -/
  | stopped
  | crashed (text : String)

structure Race where
  cancelled : Bool
  late : Bool
  stop : Bool
  progress : Progress
  /-- What the worker hears of the call, and whether the call is left behind. -/
  verdict : Option (Except CallFailure String × Bool)

namespace Race

inductive Turn
  | cancel
  | ring
  | reply (result : Except ModelError String)
  | crash (text : String)
  | heed
  | join
  | yield
  | expire

def enter (cancelled : Bool) : Race :=
  if cancelled then ⟨true, false, false, .unsent, some (.error .cancelled, false)⟩
  else ⟨false, false, false, .going, none⟩

/-- What the worker hears of a call that is over. One that stopped as told counts as cancelled. -/
def heard? : Progress → Option (Except CallFailure String)
  | .unsent | .going => none
  | .replied result => some (result.mapError .model)
  | .stopped => some (.error .cancelled)
  | .crashed text => some (.error (.model (.aborted text)))

def ends (r : Race) (progress : Progress) : Option Race :=
  match r.progress with
  | .going => some { r with progress := progress }
  | _ => none

/-- The call loses, if nobody has won yet. -/
def loses (r : Race) (failure : CallFailure) : Option Race :=
  match r.verdict with
  | none => some { r with stop := true, verdict := some (.error failure, true) }
  | some _ => none

def turn (seconds : Nat) (r : Race) : Turn → Option Race
  | .cancel => some { r with cancelled := true }
  | .ring => some { r with late := true }
  | .reply result => r.ends (.replied result)
  | .crash text => r.ends (.crashed text)
  | .heed => if r.stop then r.ends .stopped else none
  | .join =>
    match r.verdict, heard? r.progress with
    | none, some result => some { r with verdict := some (result, false) }
    | _, _ => none
  | .yield => if r.cancelled then r.loses .cancelled else none
  | .expire => if r.late then r.loses (.timeout seconds) else none

def play (seconds : Nat) (r : Race) : List Turn → Option Race
  | [] => some r
  | turn :: rest => (r.turn seconds turn).bind (fun r => play seconds r rest)

end Race

end Parley
