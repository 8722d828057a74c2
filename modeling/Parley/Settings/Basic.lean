import Parley.Model.LanguageModel
import Parley.Request

namespace Parley

def defaultInlinePrompt : String :=
  "You are a software developer with expert knowledge in any programming language."

structure AppSettings where
  name : Option String
  systemPrompt : String
  /-- A readable file takes the place of the inline prompt. -/
  systemPromptFile : Option String
  deriving DecidableEq

structure ModelSettings where
  provider : Provider
  model : String
  /-- Without one the address of the provider is used. -/
  baseUrl : Option String
  apiKeyVariable : String
  /-- Seconds for one call. -/
  timeout : Nat
  deriving DecidableEq

structure Settings where
  app : AppSettings
  llm : ModelSettings
  deriving DecidableEq

def AppSettings.default : AppSettings := ⟨none, defaultInlinePrompt, none⟩

def ModelSettings.default : ModelSettings :=
  ⟨.mock, "gpt-4o-mini", none, "OPENAI_API_KEY", defaultTimeout⟩

def Settings.default : Settings := ⟨.default, .default⟩

def ModelSettings.languageModel (s : ModelSettings) : LanguageModel := ⟨s.provider, s.model⟩

end Parley
