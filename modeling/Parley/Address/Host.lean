import Parley.Address.Ipv4
import Parley.Address.Ipv6
import Parley.DomainName.Ascii
import Parley.Text.Utf8

namespace Parley

inductive Host
  | name (text : String)
  | ipv4 (a : Ipv4)
  | ipv6 (a : Ipv6)
  deriving DecidableEq

namespace Host

def empty : Host := .name ""

def lookedUp? (cs : List Char) : Option Host := do
  let text ← (Text.decodeUtf8 (Percent.decode cs)).toOption
  let name ← DomainName.ascii? text.toList
  if name.isEmpty then none
  else if Ipv4.isNumeric name then (Ipv4.read? name).map .ipv4
  else some (.name name)

def isBarred (c : Char) : Bool := "\x00\t\n\r #/:<>?@[\\]^|".toList.contains c

def unknown? (cs : List Char) : Option Host :=
  if cs.any isBarred then none else some (.name (String.ofList (Percent.encode [] cs)))

def read? (looksUp : Bool) (cs : List Char) : Option Host :=
  if cs.head? = some '[' then
    if cs.getLast? = some ']' then
      (Ipv6.read? (String.ofList (cs.drop 1).dropLast)).map .ipv6
    else none
  else if looksUp then lookedUp? cs
  else unknown? cs

def text : Host → String
  | name text => text
  | ipv4 a => a.text
  | ipv6 a => "[" ++ a.text ++ "]"

end Host

end Parley
