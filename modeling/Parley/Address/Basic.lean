import Parley.Address.Host
import Parley.Address.Path

namespace Parley

structure Authority where
  user : String
  password : Option String
  host : Host
  number : Option Nat
  deriving DecidableEq

structure Address where
  scheme : String
  authority : Option Authority
  path : Path
  query : Option String
  fragment : Option String
  deriving DecidableEq

namespace Authority

def ofHost (host : Host) : Authority := ⟨"", none, host, none⟩

def isSigned (a : Authority) : Bool := !a.user.isEmpty || a.password.isSome

def text (a : Authority) : String :=
  a.user ++ (a.password.elim "" (":" ++ ·)) ++ (if a.isSigned then "@" else "") ++ a.host.text ++
    (a.number.elim "" (fun n => s!":{n}"))

def isReadable (s : String) : Bool := (Text.decodeUtf8 (Percent.decode s.toList)).isOk

def unsigned (a : Authority) : Authority :=
  if isReadable a.user && (!a.user.isEmpty || a.password.any isReadable) then
    { a with user := "", password := none }
  else a

end Authority

namespace Address

def hasHost (a : Address) : Bool := a.authority.any (·.host != .empty)

/-- An empty step at the front of a path is not mistaken for the mark of a host. -/
def text (a : Address) : String :=
  let path := a.path.text
  let place := match a.authority with
    | some place => "//" ++ place.text
    | none => if path.startsWith "//" then "/." else ""
  a.scheme ++ ":" ++ place ++ path ++ a.query.elim "" ("?" ++ ·) ++ a.fragment.elim "" ("#" ++ ·)

end Address

end Parley
