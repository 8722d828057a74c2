import Parley.Settings.Fields

namespace Parley.Settings

namespace FieldName

def textual : List FieldName :=
  [name, systemPrompt, systemPromptFile, model, baseUrl, apiKeyVariable]

def textOf? : (i : FieldName) → i.Value → Option String
  | name, v | systemPromptFile, v | baseUrl, v => v
  | systemPrompt, v | model, v | apiKeyVariable, v => some v
  | provider, _ | timeout, _ => none

def text? (i : FieldName) (s : Settings) : Option String := i.textOf? (i.get s)

def key (i : FieldName) : String := i.owner.key ++ "." ++ i.field.name

/-- The names, in any case, of the variable that sets a field. -/
def SetBy (i : FieldName) (name : String) : Prop :=
  Text.lowercase name = variableMark ++ i.owner.key ++ "__" ++ i.field.name

/-- Paths past a field: into no section or another one, or to another place in its section. -/
inductive PassedBy (i : FieldName) : List Part → Prop
  | outside {text path} : ¬ i.owner.Named text → PassedBy i (.name text :: path)
  | beside {text inner path} : ¬ i.Named inner → PassedBy i (.name text :: .name inner :: path)

/-- Variables that have nothing to say of a field: none sets it, something in it, or its section as
a whole. -/
def SilentOn (i : FieldName) (environment : Environment) : Prop :=
  ∀ v ∈ environment, ∀ key, variableKey? v.1 = some key → i.PassedBy (keyPath key)

end FieldName

def unset (environment : Environment) (key : String) : Environment :=
  environment.filter (fun v => variableKey? v.1 ≠ some key)

def Table.without (t : Table) (key : String) : Table := t.filter (fun entry => entry.1 ≠ key)

/-- Texts that come out of a variable as they went in: truth values in lower case, the texts of
whole numbers of 64 bits and of floating point numbers, and whatever reads as none of these. Minus
zero reads as a whole number and loses its sign. -/
inductive Verbatim : String → Prop
  | truth (b : Bool) : Verbatim (toString b)
  | integer {n : Int} : -Numeral.signedBound ≤ n → n < Numeral.signedBound → Verbatim (toString n)
  | float {x : Binary64} : x.Representable → x ≠ .finite true 0 (-1074) → Verbatim (x.text .plain)
  | other {text : String} : Text.lowercase text ≠ "true" → Text.lowercase text ≠ "false" →
    Numeral.int64? text = none → Numeral.binary64? text = none → Verbatim text

end Parley.Settings
