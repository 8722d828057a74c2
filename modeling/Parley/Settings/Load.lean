import Parley.Log
import Parley.Settings.Overlay
import Parley.Settings.Section
import Parley.Settings.TextFile
import Parley.Text.Blank

namespace Parley

namespace Settings

def bundledPaths : List String :=
  ["config/default.toml", "../config/default.toml", "default.toml"]

/-- The files to read: the bundled one, and the one that the user names if it exists. -/
def paths (files : Files) (chosen : Option String) : List String :=
  (bundledPaths.find? files.exists?).toList ++ (chosen.filter files.exists?).toList

def sources (read : FileReader) (files : Files) (stored : Table) (chosen : Option String) :
    Except SettingsError (List Table) := do
  let tables ← (paths files chosen).mapM (read files)
  return tables ++ [stored]

/-- Loads the settings with a reader of files, and with the table of the environment in the order in
which its entries are stored. -/
def loadWith (read : FileReader) (files : Files) (stored : Table) (chosen : Option String) :
    Except SettingsError Settings := do
  ofTable (merge (← sources read files stored chosen))

def ownFormats : List Format := [.toml, .json]

def load (files : Files) (environment : Environment) (chosen : Option String) :
    Except SettingsError Settings :=
  loadWith (readFile ownFormats) files (ofEnvironment environment) chosen

end Settings

namespace AppSettings

/-- What the model is told first, and a warning if the file that should hold it cannot be read. -/
def resolvePrompt (s : AppSettings) (files : Files) : String × List LogEntry :=
  match s.systemPromptFile with
  | none => (s.systemPrompt, [])
  | some path =>
    match files.readText path with
    | .ok text => (Text.trim text, [])
    | .error e =>
      (s.systemPrompt,
        [⟨.warn, s!"System prompt file {path} unreadable ({e.text}), using inline prompt"⟩])

end AppSettings

end Parley
