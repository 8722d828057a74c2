import Parley.Scenario.World

namespace Parley.Scenario.World

/-- What the worker of `m` does next, if it can go on by itself. A cancellation is seen before the
deadline and the deadline before the reply. -/
def nextAction (w : World) (m : Member) : Option Action := do
  match m.state.worker with
  | .idle =>
    if !m.state.queue.isEmpty then some (.take w.clock)
    else if m.state.closed then some .runOut
    else none
  | .calling job started =>
    let script ← w.script? m job
    if m.state.isCancelled job then some .interrupt
    else if State.deadline job started ≤ w.clock then some (.expire w.clock)
    else some (.finish ((← script.ending).result job.messages))
  | .ended _ _ _ => some (.conclude w.clock)
  | .settled job _ _ => some (.audit (w.tokensOf (← w.script? m job)))
  | .audited _ _ _ => some .deliver
  | .draining job =>
    let script ← w.script? m job
    if script.stubborn then some (.drained (some ((← script.ending).result job.messages)))
    else some (.drained none)
  | .gone _ => none

/-- The clients that an action of `m` lets return: a call that comes to its own end, and a stubborn
one that is over after it has lost. -/
def returning (w : World) (m : Member) (action : Action) : Option Script :=
  match m.state.worker, action with
  | .calling job _, .finish _ => w.script? m job
  | .draining job, .drained _ => (w.script? m job).filter Script.stubborn
  | _, _ => none

def advanceMember (w : World) (i : Nat) : Option World := do
  let m ← w.member? i
  let action ← w.nextAction m
  let counted := match w.returning m action with
    | some script => w.countReply script
    | none => w
  counted.act i m action

def handleInHand (m : Member) : Nat :=
  let job := (m.state.worker.undelivered?.or m.state.worker.executing?).or m.state.queue.head?
  (job.bind (fun job => m.handles[job.ticket]?)).getD 0

structure Turn where
  time : Instant
  /-- Whether a reply that is there already waits for the deadlines of that time. -/
  afterDeadlines : Bool
  place : Nat

def Turn.isBefore (a b : Turn) : Bool :=
  a.time < b.time || (a.time == b.time &&
    ((!a.afterDeadlines && b.afterDeadlines) ||
      (a.afterDeadlines == b.afterDeadlines && a.place < b.place)))

/-- The turn of an action of `m`. What needs no waiting comes first, then the deadlines that have
passed, then the replies. Calls with one deadline end in the order in which they began; otherwise
the oldest submission comes first. -/
def turn (w : World) (m : Member) (action : Action) : Turn :=
  let handle := handleInHand m
  match m.state.worker, action with
  | .calling job started, .expire _ => ⟨State.deadline job started, false, w.called.idxOf handle⟩
  | .calling _ _, .finish _ => ⟨w.clock, true, handle⟩
  | _, _ => ⟨0, false, handle⟩

def nextMember? (w : World) : Option Nat :=
  let ready := w.members.zipIdx.filterMap (fun (m, i) =>
    (w.nextAction m).map (fun action => (w.turn m action, i)))
  match ready with
  | [] => none
  | first :: rest => some (rest.foldl (fun a b => if b.1.isBefore a.1 then b else a) first).2

def settleWithin (fuel : Nat) (w : World) : World :=
  match fuel with
  | 0 => w
  | fuel + 1 =>
    match w.nextMember?.bind w.advanceMember with
    | some w => settleWithin fuel w
    | none => w

/-- No job takes more than six steps of a worker, and a worker that runs out takes one. -/
def stepsLeft (m : Member) : Nat := 6 * m.state.queue.length + 7

def settle (w : World) : World :=
  settleWithin (w.members.foldl (fun n m => n + stepsLeft m) 0) w

end Parley.Scenario.World
