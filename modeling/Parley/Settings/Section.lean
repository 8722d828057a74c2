import Parley.Settings.Convert

namespace Parley

/-- A field of a section: its place among the fields, its name, how it converts and what it is
without a setting. Where an array ends early, only an `omissible` field may be missing. -/
structure Settings.Field (α : Type) where
  index : Nat
  name : String
  convert : Setting.Conversion α
  default : α
  omissible : Bool

namespace Setting

def field (owner : Settings.SectionName) (s : Setting) (f : Settings.Field α) :
    Except SettingsError α :=
  match s with
  | .table _ entries =>
    match entries.lookup f.name with
    | some value => f.convert s!"{owner.key}.{f.name}" value
    | none => .ok f.default
  | .array _ items =>
    match items[f.index]? with
    | some value => f.convert s!"{owner.key}[{f.index}]" value
    | none => if f.omissible then .ok f.default else .error (.tooShort owner f.index)
  | .scalar _ value => .error (.noSection owner value)

end Setting

namespace AppSettings
open Setting (toText toOption)

def nameField : Settings.Field (Option String) :=
  ⟨0, "name", toOption toText, default.name, false⟩

def systemPromptField : Settings.Field String :=
  ⟨1, "system_prompt", toText, default.systemPrompt, true⟩

def systemPromptFileField : Settings.Field (Option String) :=
  ⟨2, "system_prompt_file", toOption toText, default.systemPromptFile, false⟩

def ofSetting (s : Setting) : Except SettingsError AppSettings := do
  let name ← s.field .app nameField
  let systemPrompt ← s.field .app systemPromptField
  let systemPromptFile ← s.field .app systemPromptFileField
  return { name, systemPrompt, systemPromptFile }

end AppSettings

namespace ModelSettings
open Setting (toText toOption toProvider toWord)

def providerField : Settings.Field Provider :=
  ⟨0, "provider", toProvider, default.provider, true⟩

def modelField : Settings.Field String := ⟨1, "model", toText, default.model, true⟩

def baseUrlField : Settings.Field (Option String) :=
  ⟨2, "base_url", toOption toText, default.baseUrl, false⟩

def apiKeyVariableField : Settings.Field String :=
  ⟨3, "api_key_env", toText, default.apiKeyVariable, true⟩

def timeoutField : Settings.Field Nat := ⟨4, "timeout_secs", toWord, default.timeout, true⟩

def ofSetting (s : Setting) : Except SettingsError ModelSettings := do
  let provider ← s.field .llm providerField
  let model ← s.field .llm modelField
  let baseUrl ← s.field .llm baseUrlField
  let apiKeyVariable ← s.field .llm apiKeyVariableField
  let timeout ← s.field .llm timeoutField
  return { provider, model, baseUrl, apiKeyVariable, timeout }

end ModelSettings

namespace Settings

def ofTable (t : Table) : Except SettingsError Settings := do
  let app ← match t.lookup SectionName.app.key with
    | some s => AppSettings.ofSetting s
    | none => .ok .default
  let llm ← match t.lookup SectionName.llm.key with
    | some s => ModelSettings.ofSetting s
    | none => .ok .default
  return { app, llm }

end Settings

end Parley
