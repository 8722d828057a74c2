import Parley.Files.Entry
import Parley.Settings.Setting

namespace Parley

inductive Settings.SectionName
  | app
  | llm
  deriving DecidableEq

namespace Settings.SectionName

def key : SectionName → String
  | app => "app"
  | llm => "llm"

def described : SectionName → String
  | app => "struct AppSection"
  | llm => "struct LlmSection"

def size : SectionName → Nat
  | app => 3
  | llm => 5

end Settings.SectionName

inductive SettingsError
  | unknownFormat (path : String)
  | noFile (path : String)
  | unreadable (error : FileError)
  | malformed
  | mismatch (found expected key : String) (origin : Option Origin)
  | unknownProvider (name : String)
  | noProvider
  /-- A section is neither a table nor an array. -/
  | noSection (name : Settings.SectionName) (found : Scalar)
  /-- An array that stands for a section lacks a value at this place. -/
  | tooShort (name : Settings.SectionName) (length : Nat)

namespace SettingsError

def text : SettingsError → String
  | unknownFormat path => s!"configuration file \"{path}\" is not of a registered file format"
  | noFile path => s!"configuration file \"{path}\" not found"
  | unreadable error => error.text
  | malformed => "malformed configuration file"
  | mismatch found expected key origin =>
    let place := match origin with
      | some o => " in " ++ o.text
      | none => ""
    s!"invalid type: {found}, expected {expected} for key `{key}`{place}"
  | unknownProvider name => s!"enum ModelProvider does not have variant constructor {name}"
  | noProvider =>
    "value of enum ModelProvider should be represented by either string or table with exactly one key"
  | noSection s found => s!"invalid type: {found.described}, expected {s.described}"
  | tooShort s length => s!"invalid length {length}, expected {s.described} with {s.size} elements"

end SettingsError

end Parley
