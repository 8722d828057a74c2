import Parley.Client.Echo
import Parley.Orchestrator.Action

namespace Parley.Scenario

inductive Ending
  | reply (text : String)
  | echo
  | fails (error : ModelError)
  | panics (message : String)
  deriving DecidableEq, Repr

def Ending.result (ending : Ending) (messages : List Message) : Except ModelError String :=
  match ending with
  | .reply text => .ok text
  | .echo => .ok (Parley.echo messages)
  | .fails error => .error error
  | .panics message =>
    .error (.aborted s!"task N panicked with message {Text.quoted message}")

inductive Tokens
  | adds (prompt completion : UInt64)
  | fail
  deriving DecidableEq, Repr

structure Script where
  /-- Goes on after it has lost, until its ending. -/
  stubborn : Bool
  tokens : Tokens
  /-- The submission whose counters it uses. -/
  counters : Nat
  ending : Option Ending
  deriving Repr

/-- One orchestrator, with the scenario's handles of its submissions in the order of their
tickets. -/
structure Member where
  setup : Setup
  ownStore : Bool
  state : State
  handles : List Nat

structure Resolution where
  handle : Nat
  /-- Nothing if the worker ended first. -/
  completion : Option Completion
  audit : Option Audit
  seen : List Message

structure World where
  members : List Member
  /-- The store of the members that have none of their own. -/
  store : Store
  scripts : List Script
  usage : List TokenUsage
  clock : Instant
  logs : List LogEntry
  resolved : List Resolution
  /-- The handles of the submissions whose calls have begun, in the order in which they did. -/
  called : List Nat

def Member.store (m : Member) (shared : Store) : Store :=
  if m.ownStore then m.state.store else shared

def Member.resolution? (m : Member) (event : Event) : Option Resolution :=
  let details (ticket : Nat) (completion : Option Completion) : Option Resolution := do
    let handle ← m.handles[ticket]?
    let job := m.state.trace.findSome? (fun
      | .accepted job => if job.ticket = ticket then some job else none
      | _ => none)
    let audit := job.bind (fun job => m.state.trace.findSome? (fun
      | .audited id audit => if id = job.id then some audit else none
      | _ => none))
    some ⟨handle, completion, audit, (job.map Job.messages).getD []⟩
  match event with
  | .resolved ticket completion => details ticket (some completion)
  | .stopped ticket => details ticket none
  | _ => none

def Member.called? (m : Member) (event : Event) : Option Nat :=
  match event with
  | .called id => do
    let job ← m.state.trace.findSome? (fun
      | .accepted job => if job.id = id then some job else none
      | _ => none)
    m.handles[job.ticket]?
  | _ => none

namespace World

def member? (w : World) (i : Nat) : Option Member := w.members[i]?

def script? (w : World) (m : Member) (job : Job) : Option Script := do
  w.scripts[← m.handles[job.ticket]?]?

def update (w : World) (i : Nat) (before : Member) (after : Member) : World :=
  let events := after.state.trace.drop before.state.trace.length
  { w with
    members := w.members.set i after
    store := if after.ownStore then w.store else after.state.store
    logs := w.logs ++ events.filterMap Event.log?
    resolved := w.resolved ++ events.filterMap after.resolution?
    called := w.called ++ events.filterMap after.called? }

def act (w : World) (i : Nat) (m : Member) (action : Action) : Option World := do
  let before := { m with state := { m.state with store := m.store w.store } }
  let state ← before.state.perform m.setup action
  some (w.update i before { before with state := state })

def countReply (w : World) (script : Script) : World :=
  match script.ending, script.tokens with
  | some (.reply _), .adds p c | some .echo, .adds p c =>
    { w with usage := w.usage.modify script.counters (fun u => u.add p c) }
  | _, _ => w

def tokensOf (w : World) (script : Script) : Option TokenUsage :=
  match script.tokens with
  | .fail => none
  | .adds _ _ => some (w.usage[script.counters]?.getD .zero)

end World

end Parley.Scenario
