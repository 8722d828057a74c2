import Parley.Settings.Source
import Parley.Text.Utf8

namespace Parley

abbrev RawEnvironment := List (String × List UInt8)

namespace RawEnvironment

def text? (e : RawEnvironment) (name : String) : Option String :=
  (e.lookup name).bind (fun bytes => (Text.decodeUtf8 bytes).toOption)

/-- The variables that are texts. The first of a name hides the others, even if it is no text. -/
def texts : RawEnvironment → Environment
  | [] => []
  | (name, bytes) :: rest =>
    let others := (texts rest).filter (fun v => v.1 ≠ name)
    match Text.decodeUtf8 bytes with
    | .ok text => (name, text) :: others
    | .error _ => others

def AgreeBut (name : String) (e e' : RawEnvironment) : Prop :=
  ∀ other, other ≠ name → e.lookup other = e'.lookup other

end RawEnvironment

end Parley
