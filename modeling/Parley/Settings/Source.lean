import Parley.Files.Entry
import Parley.Number.Numeral
import Parley.Settings.Error
import Parley.Text.Lowercase

namespace Parley

abbrev Environment := List (String × String)

namespace Settings

/-- What a library makes of the file at a path. Which formats it knows, and in which order it hands
out the entries of a table, is up to it. -/
abbrev FileReader := Files → String → Except SettingsError Table

def variableMark : String := "promptexec__"

def pointed : List Char → List Char
  | '_' :: '_' :: cs => '.' :: pointed cs
  | c :: cs => c :: pointed cs
  | [] => []

/-- The key that a variable sets. Its name counts in any case. -/
def variableKey? (name : String) : Option String :=
  let cs := (Text.lowercase name).toList
  let mark := variableMark.toList
  if mark.isPrefixOf cs then some (String.ofList (pointed (cs.drop mark.length))) else none

def variableValue (text : String) : Scalar :=
  match Text.lowercase text with
  | "true" => .boolean true
  | "false" => .boolean false
  | _ =>
    match Numeral.int64? text with
    | some n => .integer n
    | none =>
      match Numeral.binary64? text with
      | some x => .float x
      | none => .text text

/-- The table of the environment, with one entry for each key: of several variables with one key the
last counts. The entries have no order of their own, so a program may store them in any. -/
def ofEnvironment : Environment → Table
  | [] => []
  | (name, text) :: rest =>
    let others := ofEnvironment rest
    match variableKey? name with
    | none => others
    | some key =>
      if others.any (fun entry => entry.1 = key) then others
      else (key, .scalar (some .environment) (variableValue text)) :: others

end Settings

end Parley
