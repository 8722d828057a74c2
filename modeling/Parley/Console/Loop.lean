import Parley.Console.Command

namespace Parley.Console

/-- What a command does to the orchestrator and to the store, in this order. -/
def moves (c : Console) (now : Instant) : Command → List Move
  | .nothing | .history => []
  | .quit => [.own .drop]
  | .stop => [.own .cancel]
  | .clear => [.own .cancel, .foreign (.clear c.key)]
  | .prompt text => [.own (.submit (c.request text) now)]

structure Loop where
  state : State
  /-- What is still to be done for the line that was read last. -/
  due : List Move

inductive Tick
  | read (line : String) (now : Instant)
  | leave
  | proceed
  | worker (action : Action)

def Tick.line? : Tick → Option String
  | read line _ => some line
  | _ => none

namespace Loop

def start : Loop := ⟨.initial .empty, []⟩

def waits (l : Loop) : Bool := l.due.isEmpty && !l.state.closed

/-- One step; `none` where it is not possible. Nothing is read before the last line is done. -/
def step (c : Console) (l : Loop) : Tick → Option Loop
  | .read line now =>
    if l.waits then some { l with due := c.moves now (Command.ofLine line) } else none
  | .leave => if l.waits then some { l with due := [.own .drop] } else none
  | .proceed =>
    match l.due with
    | [] => none
    | m :: rest => (l.state.move c.setup m).map (fun s => ⟨s, rest⟩)
  | .worker action =>
    if action.byWorker then
      (l.state.perform c.setup action).map (fun s => { l with state := s })
    else none

def play (c : Console) (l : Loop) : List Tick → Option Loop
  | [] => some l
  | tick :: rest => (l.step c tick).bind (fun l => play c l rest)

end Loop

end Parley.Console
