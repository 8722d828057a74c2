import Parley.Number.Numeral
import Parley.Settings.Basic
import Parley.Settings.Error
import Parley.Text.Lowercase

namespace Parley

def Scalar.text? : Scalar → Option String
  | nil => none
  | boolean b => some (toString b)
  | integer n => some (toString n)
  | float x => some (x.text .plain)
  | text s => some s

def Scalar.wordOfText? (s : String) : Option Nat :=
  let word := Text.lowercase s
  if word ∈ ["true", "on", "yes"] then some 1
  else if word ∈ ["false", "off", "no"] then some 0
  else Numeral.word? s

namespace Setting

def mismatch (expected key : String) (s : Setting) : SettingsError :=
  let found := match s with
    | .scalar _ value => value.described
    | .table _ _ => "map"
    | .array _ _ => "sequence"
  .mismatch found expected key s.origin

abbrev Conversion (α : Type) := String → Setting → Except SettingsError α

def toText : Conversion String := fun key s =>
  match s with
  | .scalar _ value =>
    match value.text? with
    | some text => .ok text
    | none => .error (s.mismatch "a string" key)
  | _ => .error (s.mismatch "a string" key)

def toWord : Conversion Nat := fun key s =>
  match s with
  | .scalar o (.integer n) =>
    if n < 0 then
      .error (.mismatch s!"64-bit integer `{n}`" "an unsigned 64 bit or less integer" key o)
    else .ok n.toNat
  | .scalar _ (.float x) => .ok x.toWord
  | .scalar _ (.boolean b) => .ok b.toNat
  | .scalar _ (.text t) =>
    match Scalar.wordOfText? t with
    | some n => .ok n
    | none => .error (s.mismatch "an integer" key)
  | _ => .error (s.mismatch "an integer" key)

def toOption (convert : Conversion α) : Conversion (Option α) := fun key s =>
  match s with
  | .scalar _ .nil => .ok none
  | s => (convert key s).map some

def providerNamed (name : String) : Except SettingsError Provider :=
  match Provider.all.find? (fun p => Text.lowercase p.tag = Text.lowercase name) with
  | some p => .ok p
  | none => .error (.unknownProvider name)

/-- A provider is a text, or a table whose one entry has its name. -/
def toProvider : Conversion Provider := fun _ s =>
  match s with
  | .scalar _ (.text name) => providerNamed name
  | .table _ [(name, _)] => providerNamed name
  | _ => .error .noProvider

end Setting

end Parley
