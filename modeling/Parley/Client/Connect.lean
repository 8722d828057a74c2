import Parley.Client.Echo
import Parley.Client.Offline
import Parley.Log
import Parley.Settings.Basic
import Parley.Settings.Source

namespace Parley

inductive ModelClient
  | echo
  | remote (r : Remote)
  deriving DecidableEq

def standardBaseUrl (environment : Environment) : String :=
  (environment.lookup "OPENAI_BASE_URL").getD "https://api.openai.com/v1"

def standardKey (environment : Environment) : String :=
  (environment.lookup "OPENAI_API_KEY").getD "sk-placeholder"

namespace ModelSettings

def endpoint? (s : ModelSettings) : Option String := s.baseUrl.or s.provider.defaultBaseUrl

/-- The key that the settings name. A local provider has a fixed one instead of none, so that it
never gets a key that is meant for another. -/
def key? (s : ModelSettings) (environment : Environment) : Option String :=
  (environment.lookup s.apiKeyVariable).or (if s.provider.isLocal then some "local" else none)

def remote (s : ModelSettings) (environment : Environment) : Remote :=
  ⟨s.endpoint?.getD (standardBaseUrl environment),
    (s.key? environment).getD (standardKey environment), s.model⟩

def connect (s : ModelSettings) (environment : Environment) : ModelClient × LogEntry :=
  match s.provider with
  | .mock => (.echo, ⟨.warn, "Provider is mock, replies are echoes of the input"⟩)
  | _ =>
    let place := s.endpoint?.getD "default endpoint"
    (.remote (s.remote environment), ⟨.info, s!"Using {s.provider.name} LLM ({s.model}) at {place}"⟩)

end ModelSettings

structure Call where
  reply : Except ModelError String
  usage : TokenUsage
  later : List Exchange

namespace ModelClient

/-- One call; `none` where nothing is told yet of its request. -/
def complete (c : ModelClient) (usage : TokenUsage) (messages : List Message)
    (exchanges : List Exchange) : Option Call :=
  match c, exchanges with
  | echo, _ => some ⟨.ok (Parley.echo messages), usage, exchanges⟩
  | remote _, [] => none
  | remote r, x :: later =>
    let (reply, usage) := r.complete .plain (r.createOffline x) usage messages
    some ⟨reply, usage, later⟩

end ModelClient

end Parley
