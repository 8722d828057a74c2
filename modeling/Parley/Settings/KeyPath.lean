import Parley.Number.Numeral

namespace Parley.Settings

inductive Part
  | name (s : String)
  /-- A place in an array; a negative one counts from the end. -/
  | index (i : Int)
  deriving DecidableEq

def isNameChar (c : Char) : Bool := c.isAlphanum || c == '_' || c == '-' || c == ' '

def isPad (c : Char) : Bool := c == ' ' || c == '\t'

def index? (cs : List Char) : Option Int :=
  if cs.head? = some '+' then none else Numeral.int64? (String.ofList cs)

def readName (cs : List Char) : Option (Part × List Char) :=
  let (name, rest) := cs.span isNameChar
  if name.isEmpty then none else some (.name (String.ofList name), rest)

def readPart : List Char → Option (Part × List Char)
  | '.' :: cs => readName cs
  | '[' :: cs =>
    let (inner, rest) := (cs.dropWhile isPad).span (fun c => c.isDigit || c == '-' || c == '+')
    match rest.dropWhile isPad with
    | ']' :: rest => (index? inner).map (fun i => (.index i, rest))
    | _ => none
  | _ => none

def readParts (fuel : Nat) (cs : List Char) : Option (List Part) :=
  match fuel, cs with
  | _, [] => some []
  | 0, _ => none
  | fuel + 1, cs => do
    let (part, cs) ← readPart cs
    some (part :: (← readParts fuel cs))

def keyPath? (key : String) : Option (List Part) := do
  let (first, rest) ← readName key.toList
  some (first :: (← readParts rest.length rest))

def keyPath (key : String) : List Part := (keyPath? key).getD [.name key]

end Parley.Settings
