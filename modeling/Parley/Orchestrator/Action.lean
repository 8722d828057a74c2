import Parley.Orchestrator.Worker

namespace Parley

inductive Action
  | submit (request : Request) (now : Instant)
  | cancel
  | drop
  | take (now : Instant)
  | finish (result : Except ModelError String)
  | expire (now : Instant)
  | interrupt
  | conclude (now : Instant)
  | audit (tokens : Option TokenUsage)
  | deliver
  | drained (reply : Option (Except ModelError String))
  | runOut
  | tearDown

def Action.byWorker : Action → Bool
  | .submit _ _ | .cancel | .drop => false
  | _ => true

namespace State

/-- One step; `none` where it is not possible. Callers can act until the orchestrator is dropped. -/
def perform (setup : Setup) (s : State) : Action → Option State
  | .submit request now => if s.closed then none else some (s.submit setup request now)
  | .cancel => if s.closed then none else some s.cancelCurrent
  | .drop => if s.closed then none else some s.drop
  | .take now => s.take now
  | .finish result => s.finish result
  | .expire now => s.expire now
  | .interrupt => s.interrupt
  | .conclude now => s.conclude now
  | .audit tokens => s.audit tokens
  | .deliver => s.deliver
  | .drained reply => s.drained reply
  | .runOut => s.runOut
  | .tearDown => s.tearDown

end State

/-- A step of the orchestrator, or a change of the store by somebody else. -/
inductive Move
  | own (action : Action)
  | foreign (change : Write)

def Move.touches (key : ConversationKey) : Move → Prop
  | own _ => False
  | foreign change => change.key = key

def Move.request? : Move → Option Request
  | own (.submit request _) => some request
  | _ => none

def Move.submits (m : Move) : Bool := m.request?.isSome

def Move.stops : Move → Bool
  | own .cancel | own .drop => true
  | _ => false

/-- What a run submits: the request of every ticket, from 0 on. -/
def requests (moves : List Move) : List Request := moves.filterMap Move.request?

namespace State

def move (setup : Setup) (s : State) : Move → Option State
  | .own action => s.perform setup action
  | .foreign change => some { s with store := s.store.apply change }

def play (setup : Setup) (s : State) : List Move → Option State
  | [] => some s
  | m :: rest => (s.move setup m).bind (fun s => play setup s rest)

/-- How many moves of a kind meet a current submission on a run. -/
def meetings (setup : Setup) (kind : Move → Bool) (s : State) : List Move → Nat
  | [] => 0
  | m :: rest =>
    (if s.current.isSome && kind m then 1 else 0) +
      ((s.move setup m).map (fun t => t.meetings setup kind rest)).getD 0

def run (setup : Setup) (s : State) (actions : List Action) : Option State :=
  s.play setup (actions.map .own)

end State

end Parley
