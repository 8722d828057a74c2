import Parley.Scenario.Settle

namespace Parley.Scenario

structure Submission where
  key : ConversationKey
  input : String
  attachments : List Attachment
  model : LanguageModel
  timeout : Option Nat
  elapsed : Option Duration
  stubborn : Bool
  tokens : Tokens
  usageOf : Option Nat

inductive Step
  | submit (o : Nat) (submission : Submission)
  | ask (o : Nat) (submission : Submission) (ending : Ending)
  | finish (handle : Nat) (ending : Ending)
  | cancel (o : Nat)
  | drop (o : Nat)
  | nothing
  | advance (milliseconds : Nat)
  | append (o : Nat) (key : ConversationKey) (message : Message)
  | pop (o : Nat) (key : ConversationKey)
  | read (o : Nat) (key : ConversationKey)
  | isEmpty (o : Nat) (key : ConversationKey)
  | clear (key : ConversationKey)
  | size (key : ConversationKey)

inductive Answer
  | nothing
  | handle (n : Nat)
  | removed (message : Option Message)
  | messages (messages : List Message)
  | flag (b : Bool)
  | count (n : Nat)

structure Report where
  answer : Answer
  /-- The running flag of each member that is not dropped. -/
  running : List (Option Bool)
  resolved : List Resolution
  logs : List LogEntry

namespace World

def initial (setups : List (Setup × Bool)) : World :=
  ⟨setups.map (fun (setup, own) => ⟨setup, own, .initial .empty, []⟩), .empty, [], [], 0, [], [], []⟩

def submit (w : World) (o : Nat) (s : Submission) : Option World := do
  let m ← w.member? o
  let handle := w.scripts.length
  let shared := s.usageOf.bind (fun h => w.scripts[h]?.map Script.counters)
  let script : Script := ⟨s.stubborn, s.tokens, shared.getD handle, none⟩
  let w := { w with scripts := w.scripts ++ [script], usage := w.usage ++ [TokenUsage.zero] }
  let request : Request :=
    ⟨s.key, s.input, s.attachments, s.model, handle, s.timeout, s.elapsed⟩
  w.act o { m with handles := m.handles ++ [handle] } (.submit request w.clock)

def finish (w : World) (handle : Nat) (ending : Ending) : World :=
  { w with scripts := w.scripts.modify handle (fun script =>
      { script with ending := script.ending.or (some ending) }) }

def changeStore (w : World) (o : Nat) (change : Write) : Option World := do
  let m ← w.member? o
  if m.ownStore then
    let state ← m.state.move m.setup (.foreign change)
    some { w with members := w.members.set o { m with state := state } }
  else some { w with store := w.store.apply change }

def perform (w : World) : Step → Option (World × Answer)
  | .submit o s => (w.submit o s).map (fun v => (v, .handle w.scripts.length))
  | .ask o s ending =>
    (w.submit o s).map (fun v => (v.settle.finish w.scripts.length ending,
      .handle w.scripts.length))
  | .finish handle ending => some (w.finish handle ending, .nothing)
  | .cancel o => do
    let m ← w.member? o
    some (← w.act o m .cancel, .nothing)
  | .drop o => do
    let m ← w.member? o
    some (← w.act o m .drop, .nothing)
  | .nothing => some (w, .nothing)
  | .advance ms =>
    some ({ w with clock := w.clock + (Duration.ofMilliseconds ms).nanoseconds }, .nothing)
  | .append o key message => do
    some (← w.changeStore o (.append key message), .nothing)
  | .pop o key => do
    let m ← w.member? o
    let last := (m.store w.store).last? key
    some (← w.changeStore o (.removeLast key), .removed last)
  | .read o key => do
    let m ← w.member? o
    some (w, .messages ((m.store w.store).history key))
  | .isEmpty o key => do
    let m ← w.member? o
    some (w, .flag ((m.store w.store).isEmpty key))
  | .clear key => some ({ w with store := w.store.apply (.clear key) }, .nothing)
  | .size key => some (w, .count (w.store.size key))

def running (w : World) : List (Option Bool) :=
  w.members.map (fun m => if m.state.closed then none else some m.state.running)

/-- One step. A deferred step leaves settling, and the report of ends, to a later one. -/
def step (w : World) (deferred : Bool) (s : Step) : Option (World × Report) := do
  let (w, answer) ← { w with logs := [] }.perform s
  if deferred then some (w, ⟨answer, w.running, [], w.logs⟩)
  else
    let w := w.settle
    let ends := w.resolved.mergeSort (fun a b => a.handle ≤ b.handle)
    some ({ w with resolved := [] }, ⟨answer, w.running, ends, w.logs⟩)

def play (w : World) : List (Bool × Step) → Option (List Report)
  | [] => some []
  | (deferred, s) :: rest => do
    let (w, report) ← w.step deferred s
    some (report :: (← w.play rest))

end World

end Parley.Scenario
