import Parley.Client.Connect
import Parley.Console.Command
import Parley.Console.Input
import Parley.Settings.Load

namespace Parley.Console

structure Session where
  console : Console
  client : ModelClient
  usage : TokenUsage
  state : State
  /-- The exit code, once the session is over. -/
  exit : Option Nat

namespace Session

/-- Opens a session. Settings that do not load are replaced by the defaults. -/
def start (files : Files) (environment : Environment) (chosen : Option String)
    (key : ConversationKey) : Session × List Printed :=
  let settings := match Settings.load files environment chosen with
    | .ok settings => settings
    | .error _ => .default
  let prompt := (settings.app.resolvePrompt files).1
  let console := Console.ofSettings settings.llm prompt key
  (⟨console, (settings.llm.connect environment).1, .zero, .initial .empty, none⟩,
    [.out (console.banner settings.app.name)])

/-- Lets the worker serve the job that waits for it; `none` while the call still waits. -/
def serve (s : Session) (exchanges : List Exchange) (now : Instant) :
    Option (Session × List Printed) :=
  match s.state.queue with
  | [] => some (s, [])
  | job :: _ => do
    let call ← s.client.complete s.usage job.messages exchanges
    let after ← s.state.run s.console.setup
      [.take now, .finish call.reply, .conclude now, .audit (some call.usage), .deliver]
    some ({ s with state := after, usage := call.usage }, newLines s.state after)

def unreadable (e : Text.BadUtf8) : List Printed :=
  ["Error: Failed to read stdin", "", "Caused by:", "    " ++ e.text].map .err

def read (s : Session) (exchanges : List Exchange) (now : Instant) (line : List UInt8) :
    Option (Session × List Printed) :=
  if s.exit.isSome then some (s, [])
  else match lineText line with
    | .error e => some ({ s with exit := some 1 }, unreadable e)
    | .ok text => do
      let command := Command.ofLine text
      let (state, printed) := s.console.obey s.state now command
      let exit := if command = .quit then some 0 else none
      let (s, more) ← { s with state, exit }.serve exchanges now
      some (s, printed ++ more)

end Session

end Parley.Console
