import Parley.Json.Basic
import Parley.Number.Shortest

namespace Parley.Json

def hexLow (n : Nat) : Char := (Nat.toDigits 16 (n % 16)).headD '0'

def writeChar (c : Char) : List Char :=
  if c = '"' then ['\\', '"']
  else if c = '\\' then ['\\', '\\']
  else if c.toNat < 0x20 then ['\\', 'u', '0', '0', hexLow (c.toNat / 16), hexLow c.toNat]
  else [c]

def writeText (s : String) : List Char := '"' :: s.toList.flatMap writeChar ++ ['"']

def joined : List (List Char) → List Char
  | [] => []
  | [x] => x
  | x :: xs => x ++ ',' :: joined xs

mutual

def writeValue : Json → List Char
  | .null => "null".toList
  | .bool b => (if b then "true" else "false").toList
  | .int n => (toString n).toList
  | .float x => (x.text .compact).toList
  | .str s => writeText s
  | .arr items => '[' :: joined (writeItems items) ++ [']']
  | .obj members => '\x7b' :: joined (writeMembers members) ++ ['\x7d']

def writeItems : List Json → List (List Char)
  | [] => []
  | v :: rest => writeValue v :: writeItems rest

def writeMembers : List (String × Json) → List (List Char)
  | [] => []
  | (n, v) :: rest => (writeText n ++ ':' :: writeValue v) :: writeMembers rest

end

def write (j : Json) : String := String.ofList (writeValue j)

end Parley.Json
