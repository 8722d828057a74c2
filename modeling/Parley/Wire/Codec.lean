import Parley.Json.Basic
import Parley.Number.Shortest
import Parley.Text.Quoted

namespace Parley

inductive WireError
  | wrongType (found : Json) (expected : String)
  | unknownName (found : String) (expected : List String)
  | notOneMember
  | missingField (name : String)
  | wrongLength (length : Nat) (expected : String)

namespace WireError

def describe : Json → String
  | .null => "null"
  | .bool b => s!"boolean `{b}`"
  | .int n => s!"integer `{n}`"
  | .float x => s!"floating point `{x.text .compact}`"
  | .str s => s!"string {Text.quoted s}"
  | .arr _ => "sequence"
  | .obj _ => "map"

def text : WireError → String
  | wrongType found expected => s!"invalid type: {describe found}, expected {expected}"
  | unknownName found expected =>
    let names := ", ".intercalate (expected.map (fun n => s!"`{n}`"))
    s!"unknown variant `{found}`, expected one of {names}"
  | notOneMember => "invalid value: map, expected map with a single key"
  | missingField name => s!"missing field `{name}`"
  | wrongLength length expected => s!"invalid length {length}, expected {expected}"

end WireError

namespace Wire

abbrev Decoder (α : Type) := Json → Except WireError α

def decodeString : Decoder String
  | .str s => .ok s
  | j => .error (.wrongType j "a string")

def named (name : α → String) (values : List α) (found : String) : Except WireError α :=
  match values.find? (fun v => name v = found) with
  | some v => .ok v
  | none => .error (.unknownName found (values.map name))

/-- A choice of names: the name as a text, or as the only member of an object, with null in it. -/
def decodeName (name : α → String) (values : List α) : Decoder α
  | .str s => named name values s
  | .obj [(n, content)] => do
    let v ← named name values n
    match content with
    | .null => .ok v
    | other => .error (.wrongType other "unit")
  | .obj _ => .error .notOneMember
  | j => .error (.wrongType j "string or map")

structure Field (α : Type) where
  name : String
  decode : Decoder α

/-- Succeeds unless the field is there and does not decode. -/
def Field.check (f : Field α) (members : List (String × Json)) : Except WireError Unit :=
  match members.lookup f.name with
  | some j => (f.decode j).map (fun _ => ())
  | none => .ok ()

def Field.get (f : Field α) (members : List (String × Json)) : Except WireError α :=
  match members.lookup f.name with
  | some j => f.decode j
  | none => .error (.missingField f.name)

/-- A record of two fields, as an object or as the list of its fields. In an object, a field that
does not decode is found before one that is missing, the least name first; other members do not
matter. -/
def decodePair (what : String) (f : Field α) (g : Field β) (make : α → β → γ) : Decoder γ
  | .obj members => do
    if f.name < g.name then
      f.check members
      g.check members
    else
      g.check members
      f.check members
    let a ← f.get members
    let b ← g.get members
    .ok (make a b)
  | .arr [] => .error (.wrongLength 0 s!"struct {what} with 2 elements")
  | .arr [x] => do
    let _ ← f.decode x
    .error (.wrongLength 1 s!"struct {what} with 2 elements")
  | .arr (x :: y :: rest) => do
    let a ← f.decode x
    let b ← g.decode y
    if rest.isEmpty then .ok (make a b)
    else .error (.wrongLength (rest.length + 2) "fewer elements in array")
  | j => .error (.wrongType j s!"struct {what}")

end Wire

end Parley
