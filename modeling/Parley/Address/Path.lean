import Parley.Address.Percent

namespace Parley

inductive Path
  | flat (text : String)
  | steps (names : List String)
  deriving DecidableEq

namespace Path

def fragmentSet : List Char := " \"<>\x60".toList

def pathSet : List Char := fragmentSet ++ "#?\x7b\x7d".toList

def isHere (name : String) : Bool := [".", "%2e"].contains name.toLower

def isUp (name : String) : Bool := ["..", ".%2e", "%2e.", "%2e%2e"].contains name.toLower

def isDrive (cs : List Char) : Bool :=
  match cs with
  | [letter, mark] => letter.isAlpha && (mark == ':' || mark == '|')
  | _ => false

/-- Whether a name is a drive, or begins with one and a backslash. No step up leads out of it. -/
def beginsWithDrive (name : String) : Bool :=
  isDrive (name.toList.take 2) && (name.toList.drop 2).head?.all (· == '\\')

def driveName (name : String) : String := String.ofList (name.toList.take 1 ++ [':'])

def up : List String → List String
  | [] => []
  | name :: before => if beginsWithDrive name then name :: before else before

/-- Goes the steps behind `done`, of which the last one comes first. Where `files` is set, the first
step may be a drive. A path that ends in points ends in an empty name. -/
def walk (files : Bool) (done : List String) : List String → List String
  | [] => done.reverse
  | name :: rest =>
    if isUp name || isHere name then
      let done := if isUp name then up done else done
      if rest.isEmpty then ("" :: done).reverse else walk files done rest
    else if files && done.isEmpty && isDrive name.toList then walk files [driveName name] rest
    else walk files (name :: done) rest

def names (cs : List Char) : List String :=
  let cs := if cs.head? = some '/' then cs.drop 1 else cs
  (String.ofList (Percent.encode pathSet cs)).splitOn "/"

def text : Path → String
  | flat text => text
  | steps names => String.join (names.map ("/" ++ ·))

end Path

end Parley
