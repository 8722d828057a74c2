import Parley.Settings.Load

namespace Parley.Settings

inductive FieldName
  | name
  | systemPrompt
  | systemPromptFile
  | provider
  | model
  | baseUrl
  | apiKeyVariable
  | timeout
  deriving DecidableEq

namespace FieldName

def owner : FieldName → SectionName
  | name | systemPrompt | systemPromptFile => .app
  | provider | model | baseUrl | apiKeyVariable | timeout => .llm

abbrev Value : FieldName → Type
  | name | systemPromptFile | baseUrl => Option String
  | systemPrompt | model | apiKeyVariable => String
  | provider => Provider
  | timeout => Nat

def field : (i : FieldName) → Field i.Value
  | name => AppSettings.nameField
  | systemPrompt => AppSettings.systemPromptField
  | systemPromptFile => AppSettings.systemPromptFileField
  | provider => ModelSettings.providerField
  | model => ModelSettings.modelField
  | baseUrl => ModelSettings.baseUrlField
  | apiKeyVariable => ModelSettings.apiKeyVariableField
  | timeout => ModelSettings.timeoutField

def get : (i : FieldName) → Settings → i.Value
  | name, s => s.app.name
  | systemPrompt, s => s.app.systemPrompt
  | systemPromptFile, s => s.app.systemPromptFile
  | provider, s => s.llm.provider
  | model, s => s.llm.model
  | baseUrl, s => s.llm.baseUrl
  | apiKeyVariable, s => s.llm.apiKeyVariable
  | timeout, s => s.llm.timeout

def settings (values : (i : FieldName) → i.Value) : Settings where
  app := ⟨values name, values systemPrompt, values systemPromptFile⟩
  llm := ⟨values provider, values model, values baseUrl, values apiKeyVariable, values timeout⟩

@[simp] theorem get_settings (values : (i : FieldName) → i.Value) (i : FieldName) :
    i.get (settings values) = values i := by
  cases i <;> rfl

/-- Without a setting a field is what it is in the default settings. -/
theorem field_default (i : FieldName) : i.field.default = i.get .default := by
  cases i <;> rfl

/-- What a setting converts to in a field; an error names the section and the field. -/
def convert (i : FieldName) (value : Setting) : Except SettingsError i.Value :=
  i.field.convert s!"{i.owner.key}.{i.field.name}" value

def resolve (i : FieldName) : Option Setting → Except SettingsError i.Value
  | some value => i.convert value
  | none => .ok i.field.default

def Named (i : FieldName) (text : String) : Prop := Text.lowercase text = i.field.name

instance (i : FieldName) (text : String) : Decidable (i.Named text) :=
  inferInstanceAs (Decidable (_ = _))

def among (i : FieldName) (entries : Table) : List Setting :=
  (entries.filter (fun entry => i.Named entry.1)).map Prod.snd

end FieldName

def SectionName.Named (s : SectionName) (text : String) : Prop := Text.lowercase text = s.key

instance (s : SectionName) (text : String) : Decidable (s.Named text) :=
  inferInstanceAs (Decidable (_ = _))

/-- The values that one entry of a source gives a field: as a part of its section, or under a path
of its own. -/
def FieldName.valuesAt (i : FieldName) (path : List Part) (value : Setting) : List Setting :=
  match path with
  | [.name s] => if i.owner.Named s then i.among value.asTable.2 else []
  | [.name s, .name n] => if i.owner.Named s ∧ i.Named n then [value] else []
  | _ => []

/-- The values that a source gives a field, in the order of its entries. -/
def Table.values (source : Table) (i : FieldName) : List Setting :=
  source.flatMap (fun (key, value) => i.valuesAt (keyPath key) value)

def Table.given? (source : Table) (i : FieldName) : Option Setting := (source.values i).head?

/-- The tables of the sources, from the lowest rank to the highest. A file that does not exist has
none. -/
structure Layers where
  bundled : Option Table
  explicit : Option Table
  environment : Table

namespace Layers

def tables (l : Layers) : List Table :=
  l.bundled.toList ++ l.explicit.toList ++ [l.environment]

/-- The value for a field from the source of the highest rank that has one. -/
def given? (l : Layers) (i : FieldName) : Option Setting :=
  l.environment.given? i <|> (l.explicit.bind (·.given? i)) <|> (l.bundled.bind (·.given? i))

end Layers

/-- The sources of a program. There are none if a file that exists cannot be read, or is not in its
format. -/
def layers (read : FileReader) (files : Files) (environment : Environment)
    (chosen : Option String) : Except SettingsError Layers := do
  let bundled ← (bundledPaths.find? files.exists?).mapM (read files)
  let explicit ← (chosen.filter files.exists?).mapM (read files)
  return ⟨bundled, explicit, ofEnvironment environment⟩

/-- A section takes anything under the name of no field, and single values for its fields. -/
def SectionName.Takes (s : SectionName) (name : String) (value : Setting) : Prop :=
  ∀ i : FieldName, i.owner = s → i.Named name → ∃ o v, value = .scalar o v

/-- Where an entry of a source may stand, and with what value. -/
inductive WellPlaced : List Part → Setting → Prop
  /-- Outside the sections. -/
  | apart : (∀ s : SectionName, ¬ s.Named text) → WellPlaced (.name text :: path) value
  /-- A section as a whole is a table. -/
  | whole (s : SectionName) : s.Named text → (∀ entry ∈ entries, s.Takes entry.1 entry.2) →
    WellPlaced [.name text] (.table o entries)
  | single (s : SectionName) : s.Named text → s.Takes name value →
    WellPlaced [.name text, .name name] value
  /-- Behind an entry of a section that is no field. -/
  | deeper (s : SectionName) : s.Named text →
    (∀ i : FieldName, i.owner = s → ¬ i.Named name) →
    WellPlaced (.name text :: .name name :: path) value

/-- All entries of a source are well placed, and none gives a field a second value. -/
structure Table.Orderly (source : Table) : Prop where
  placed : ∀ entry ∈ source, WellPlaced (keyPath entry.1) entry.2
  once : ∀ i, (source.values i).length ≤ 1

end Parley.Settings
