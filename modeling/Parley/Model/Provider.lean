namespace Parley

inductive Provider
  | openai
  | deepseek
  | jan
  | ollama
  | lmstudio
  /-- Any endpoint that speaks the same interface; it has no address of its own. -/
  | custom
  | mock
  deriving DecidableEq, Repr

namespace Provider

def all : List Provider := [openai, deepseek, jan, ollama, lmstudio, custom, mock]

def name : Provider → String
  | openai => "OpenAI"
  | deepseek => "DeepSeek"
  | jan => "Jan"
  | ollama => "Ollama"
  | lmstudio => "LMStudio"
  | custom => "CustomOpenAI"
  | mock => "Mock"

def tag : Provider → String
  | openai => "openai"
  | deepseek => "deepseek"
  | jan => "jan"
  | ollama => "ollama"
  | lmstudio => "lmstudio"
  | custom => "custom"
  | mock => "mock"

def label : Provider → String
  | openai => "OpenAi"
  | deepseek => "DeepSeek"
  | jan => "Jan"
  | ollama => "Ollama"
  | lmstudio => "LmStudio"
  | custom => "Custom"
  | mock => "Mock"

def defaultBaseUrl : Provider → Option String
  | deepseek => some "https://api.deepseek.com"
  | jan => some "http://localhost:1337/v1"
  | ollama => some "http://localhost:11434/v1"
  | lmstudio => some "http://localhost:1234/v1"
  | openai | custom | mock => none

def isLocal : Provider → Bool
  | jan | ollama | lmstudio | mock => true
  | openai | deepseek | custom => false

/-- Every failure of such a provider, time-outs apart, means that its model is not loaded. -/
def reportsInactiveModel : Provider → Bool
  | jan => true
  | _ => false

end Provider

end Parley
