import Parley.Address.Reader
import Parley.Client.Remote

namespace Parley

inductive Exchange
  | settled (result : Except String Chat.Answer)
  | broken

namespace Remote

def target (r : Remote) : String := r.baseUrl ++ "/chat/completions"

def requested (a : Address) : Address :=
  { a with
    authority := a.authority.map Authority.unsigned
    query := a.query.filter (!·.isEmpty) }

def longestAddress : Nat := 65534

def isReachable (a : Address) : Bool :=
  (a.scheme == "http" || a.scheme == "https") && a.text.utf8ByteSize ≤ longestAddress &&
    a.authority.all (fun place => !place.host.text.toList.any "\"\x60\x7b\x7d".toList.contains)

def unmade : Option Address → String
  | none => "http error: builder error"
  | some a => s!"http error: builder error for url ({a.text})"

def destination (r : Remote) : Except String Address :=
  match Address.read? r.target with
  | none => .error (unmade none)
  | some a =>
    if !a.hasHost then .error (unmade (some a))
    else if !isReachable (requested a) then .error (unmade (some (requested a)))
    else .ok (requested a)

/-- What a library makes of a request that is settled as told. Where no server is reached, its error
names the address. -/
def createOffline (r : Remote) (x : Exchange) : Chat.Create := fun _ => do
  let address ← r.destination
  match x with
  | .settled result => result
  | .broken => .error s!"http error: error sending request for url ({address.text})"

end Remote

end Parley
