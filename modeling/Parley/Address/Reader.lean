import Parley.Address.Basic

namespace Parley.Address

def isEdge (c : Char) : Bool := c.toNat ≤ 0x20

def cleaned (text : String) : List Char :=
  (((text.toList.dropWhile isEdge).reverse.dropWhile isEdge).reverse).filter
    (fun c => c != '\t' && c != '\n' && c != '\r')

def splitScheme? (cs : List Char) : Option (String × List Char) :=
  let (scheme, rest) := cs.span (fun c => c.isAlphanum || c == '+' || c == '-' || c == '.')
  match scheme, rest with
  | first :: _, ':' :: rest =>
    if first.isAlpha then some (String.ofList (scheme.map Char.toLower), rest) else none
  | _, _ => none

def cutAt (mark : Char) (cs : List Char) : List Char × Option (List Char) :=
  (cs.takeWhile (· != mark), (cs.dropWhile (· != mark)).tail?)

def cutAtLast (mark : Char) (cs : List Char) : Option (List Char) × List Char :=
  let (behind, before) := cutAt mark cs.reverse
  (before.map List.reverse, behind.reverse)

def isKnown (scheme : String) : Bool :=
  ["http", "https", "ws", "wss", "ftp", "file"].contains scheme

def usualNumber? (scheme : String) : Option Nat :=
  if scheme = "http" ∨ scheme = "ws" then some 80
  else if scheme = "https" ∨ scheme = "wss" then some 443
  else if scheme = "ftp" then some 21
  else none

/-- In known schemes a backslash divides as a slash does. -/
def divides (known : Bool) (c : Char) : Bool := c == '/' || (known && c == '\\')

def userSet : List Char := Path.pathSet ++ "/:;=@[\\]^|".toList

def user (cs : List Char) : String := String.ofList (Percent.encode userSet cs)

def splitHost (inside : Bool) : List Char → List Char × List Char
  | [] => ([], [])
  | c :: rest =>
    if c == ':' && !inside then ([], c :: rest)
    else
      let (host, behind) := splitHost (c == '[' || (inside && c != ']')) rest
      (c :: host, behind)

/-- The number behind a colon, and what follows it. The usual number of a scheme is left out. -/
def readNumber? (scheme : String) : List Char → Option (Option Nat × List Char)
  | ':' :: cs => do
    let (ds, behind) := cs.span Char.isDigit
    if behind.head?.any (· != '\\') || 65536 ≤ Numeral.ofDigits ds then none
    let n := Numeral.ofDigits ds
    some (if ds.isEmpty || some n == usualNumber? scheme then none else some n, behind)
  | _ => some (none, [])

/-- Reads the place in front of a path, and what follows it. A user needs a host. `last` tells that
the address ends with the place. -/
def readPlace? (scheme : String) (last : Bool) (cs : List Char) :
    Option (Authority × List Char) := do
  let (asking, asked) := cutAtLast '@' cs
  if asking == some [] && asked.isEmpty && !last then none
  let (name, password) := cutAt ':' (asking.getD [])
  let (host, behind) := splitHost false asked
  let host ← Host.read? (isKnown scheme) host
  let (number, rest) ← readNumber? scheme behind
  let place : Authority := ⟨user name, (password.filter (!·.isEmpty)).map user, host, number⟩
  if host == .empty && (!behind.isEmpty || place.isSigned) then none
  some (place, rest)

def readPlaced? (scheme : String) (last : Bool) (cs : List Char) :
    Option (Option Authority × Path) := do
  let known := isKnown scheme
  let (place, path) := cs.span (!divides known ·)
  let (place, rest) ← readPlace? scheme (last && path.isEmpty) place
  let path := rest ++ path
  if path.isEmpty && !known then some (some place, .steps [])
  else
    let path := if known then path.map (fun c => if c = '\\' then '/' else c) else path
    some (some place, .steps (Path.walk false [] (Path.names path)))

/-- Reads the address of a file. A drive has no host, nor has the machine that reads. -/
def readFile? (cs : List Char) : Option (Option Authority × Path) := do
  let cs := cs.map (fun c => if c = '\\' then '/' else c)
  let (host, path) ← match cs with
    | '/' :: '/' :: rest => do
      let (name, path) := rest.span (· != '/')
      if Path.isDrive name then some (Host.empty, rest)
      else if name.isEmpty then some (Host.empty, path)
      else
        let host ← Host.read? true name
        some (if host == .name "localhost" then .empty else host, path)
    | _ => some (Host.empty, cs)
  let names := Path.walk true [] (Path.names path)
  let host := if names.head?.any (fun s => Path.isDrive s.toList) then Host.empty else host
  let names := match names.dropWhile String.isEmpty with
    | [] => [""]
    | names => names
  some (some (.ofHost host), .steps names)

def querySet (known : Bool) : List Char := " \"#<>".toList ++ if known then ['\''] else []

def readBody? (scheme : String) (last : Bool) (cs : List Char) :
    Option (Option Authority × Path) :=
  if scheme = "file" then readFile? cs
  else if isKnown scheme then readPlaced? scheme last (cs.dropWhile (divides true))
  else match cs with
    | '/' :: '/' :: rest => readPlaced? scheme last rest
    | '/' :: _ => some (none, .steps (Path.walk false [] (Path.names cs)))
    | _ => some (none, .flat (String.ofList (Percent.encode [] cs)))

def read? (text : String) : Option Address := do
  let (scheme, cs) ← splitScheme? (cleaned text)
  let (cs, fragment) := cutAt '#' cs
  let (cs, query) := cutAt '?' cs
  let (authority, path) ← readBody? scheme (query.isNone && fragment.isNone) cs
  let write (reserved cs : List Char) : String := String.ofList (Percent.encode reserved cs)
  some ⟨scheme, authority, path, query.map (write (querySet (isKnown scheme))),
    fragment.map (write Path.fragmentSet)⟩

end Parley.Address
