import Parley.Orchestrator.Action
import Parley.Settings.Basic
import Parley.Text.Blank

namespace Parley

inductive Command
  | nothing
  | quit
  | stop
  /-- Cancels what is running, and forgets the conversation. -/
  | clear
  | history
  | prompt (text : String)
  deriving DecidableEq

/-- What a line means. Blanks around it do not count, and only a whole line is a command. -/
def Command.ofLine (line : String) : Command :=
  let text := Text.trim line
  if text = "" then nothing
  else if text = "/quit" then quit
  else if text = "/stop" then stop
  else if text = "/clear" then clear
  else if text = "/history" then history
  else prompt text

inductive Printed
  | out (text : String)
  | err (text : String)
  deriving DecidableEq

structure Console where
  setup : Setup
  model : LanguageModel
  /-- Seconds for one call. -/
  timeout : Nat
  key : ConversationKey

namespace Console

def ofSettings (s : ModelSettings) (prompt : String) (key : ConversationKey) : Console :=
  ⟨⟨prompt, compose⟩, s.languageModel, s.timeout, key⟩

def banner (c : Console) (name : Option String) : String :=
  let name := name.getD "promptexec"
  s!"{name} ({c.model.display}) - type a prompt or /stop /history /clear /quit"

def request (c : Console) (input : String) : Request :=
  ⟨c.key, input, [], c.model, 0, some c.timeout, none⟩

def historyLine (m : Message) : Printed := .out s!"[{m.role.name}] {m.content}"

def outcomeLines : Outcome → List Printed
  | .generated reply => [.out reply.message.content, .out s!"({reply.elapsed.milliseconds} ms)"]
  | .failed e => [.err s!"error: {e.text}"]
  | .skipped => [.out "(stopped)"]

def eventLines : Event → List Printed
  | .resolved _ completion => outcomeLines completion.outcome
  | .stopped _ => [.err s!"error: {workerStoppedText}"]
  | _ => []

def newLines (before after : State) : List Printed :=
  (after.trace.drop before.trace.length).flatMap eventLines

/-- Carries out a command. Leaving drops the orchestrator and prints nothing more. -/
def obey (c : Console) (s : State) (now : Instant) : Command → State × List Printed
  | .nothing => (s, [])
  | .quit => (s.drop, [])
  | .stop => (s.cancelCurrent, [])
  | .clear =>
    let s := s.cancelCurrent
    ({ s with store := s.store.clear c.key }, [.out "(cleared)"])
  | .history => (s, (s.store.history c.key).map historyLine)
  | .prompt text =>
    let after := s.submit c.setup (c.request text) now
    (after, newLines s after)

end Console

inductive Console.Step
  | line (text : String) (now : Instant)
  | worker (action : Action)

def Console.perform (c : Console) (s : State) : Console.Step → Option (State × List Printed)
  | .line text now => if s.closed then none else some (c.obey s now (Command.ofLine text))
  | .worker action =>
    if action.byWorker then
      (s.perform c.setup action).map (fun after => (after, newLines s after))
    else none

end Parley
