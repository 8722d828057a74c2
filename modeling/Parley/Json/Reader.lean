import Parley.Json.Token

namespace Parley.Json

/-- An open container: what it holds so far in reverse, and the name that waits for its value. -/
inductive Frame
  | arr (items : List Json)
  | obj (members : List (String × Json)) (name : String)

inductive Awaits
  | value
  | firstItem
  | firstName
  | name
  | colon
  | separator

def deepest : Nat := 127

def place (value : Json) : List Frame → Awaits × List Frame
  | [] => (.separator, [])
  | .arr items :: outer => (.separator, .arr (value :: items) :: outer)
  | .obj members name :: outer => (.separator, .obj ((name, value) :: members) name :: outer)

def begin (frame : Frame) (next : Awaits) (frames : List Frame) : Option (Awaits × List Frame) :=
  if frames.length < deepest then some (next, frame :: frames) else none

def build (awaits : Awaits) (frames : List Frame) : List Token → Option Json
  | [] => none
  | token :: rest =>
    let close (value : Json) (outer : List Frame) : Option Json :=
      match outer with
      | [] => if rest.isEmpty then some value else none
      | _ =>
        let (awaits, frames) := place value outer
        build awaits frames rest
    match awaits, token, frames with
    | .value, .scalar v, frames | .firstItem, .scalar v, frames => close v frames
    | .value, .text s, frames | .firstItem, .text s, frames => close (.str s) frames
    | .value, .openArray, frames | .firstItem, .openArray, frames =>
      match begin (.arr []) .firstItem frames with
      | some (awaits, frames) => build awaits frames rest
      | none => none
    | .value, .openObject, frames | .firstItem, .openObject, frames =>
      match begin (.obj [] "") .firstName frames with
      | some (awaits, frames) => build awaits frames rest
      | none => none
    | .firstItem, .closeArray, .arr items :: outer => close (.arr items.reverse) outer
    | .firstName, .closeObject, .obj members _ :: outer => close (object members.reverse) outer
    | .firstName, .text s, .obj members _ :: outer => build .colon (.obj members s :: outer) rest
    | .name, .text s, .obj members _ :: outer => build .colon (.obj members s :: outer) rest
    | .colon, .colon, frames => build .value frames rest
    | .separator, .comma, .arr items :: outer => build .value (.arr items :: outer) rest
    | .separator, .comma, .obj members n :: outer => build .name (.obj members n :: outer) rest
    | .separator, .closeArray, .arr items :: outer => close (.arr items.reverse) outer
    | .separator, .closeObject, .obj members _ :: outer => close (object members.reverse) outer
    | _, _, _ => none

/-- The value of a JSON text; `none` for a text that is not JSON or nests too deep. -/
def read? (text : String) : Option Json := do
  build .value [] (← tokens text.toList)

end Parley.Json
