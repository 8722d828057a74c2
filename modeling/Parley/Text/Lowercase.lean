import Parley.Text.Case

namespace Parley.Text

def lowerChar (c : Char) : List Char :=
  let n := c.toNat
  if n < 0x80 then [c.toLower]
  else if n = 0x130 then ['i', Char.ofNat 0x307]
  else
    match lowercaseRuns.find? (fun (a, b, s, _) => a ≤ n && n ≤ b && (n - a) % s == 0) with
    | some (_, _, _, shift) => [Char.ofNat (n + shift).toNat]
    | none => [c]

def facesCased (cs : List Char) : Bool :=
  match cs.find? (fun c => !isCaseIgnorable c) with
  | some c => isCased c
  | none => false

/-- `before` holds the characters already passed, nearest first. -/
def lowerFrom (before : List Char) : List Char → List Char
  | [] => []
  | c :: rest =>
    let here :=
      if c.toNat = 0x3a3 then
        [Char.ofNat (if facesCased before && !facesCased rest then 0x3c2 else 0x3c3)]
      else lowerChar c
    here ++ lowerFrom (c :: before) rest

def lowercase (s : String) : String := String.ofList (lowerFrom [] s.toList)

end Parley.Text
