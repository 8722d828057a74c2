import Parley.DomainName.Composed
import Parley.DomainName.Direction
import Parley.DomainName.Fold
import Parley.DomainName.Joiner
import Parley.DomainName.Punycode

namespace Parley.DomainName

def longestLabel : Nat := 1000

def longestPunycode : Nat := 2000

def isBarred (c : Char) : Bool :=
  c.toNat ≤ 0x20 || c.toNat == 0x7f || "%#/:<>?@[\\]^|".toList.contains c

def isAscii (c : Char) : Bool := c.toNat < 0x80

/-- The label that a written label tells. One that begins with `xn--` tells a label that could not be
written plainly, in the one form that it has. -/
def label? : List Char → Option (List Char)
  | 'x' :: 'n' :: '-' :: '-' :: code => do
    if longestPunycode < code.length then none
    let label ← Punycode.decode? code
    if label.all isAscii || !label.all isFolded || composed label != label then none
    some label
  | label => some label

def isLabel (label : List Char) : Bool :=
  !label.any isBarred && !label.head?.any isMark && joinersFit [] label

def labels? (name : List Char) : Option (List (List Char)) := do
  let labels ← ((String.ofList name).splitOn ".").mapM (fun s => label? s.toList)
  let directions := labels.map (·.map Direction.of)
  if labels.all isLabel &&
      (directions.all (fun ds => !ds.any Direction.isRight) || directions.all Direction.fit) then
    some labels
  else none

def asciiLabel? (label : List Char) : Option String :=
  if label.all isAscii then some (String.ofList label)
  else if longestLabel < label.length then none
  else some ("xn--" ++ String.ofList (Punycode.encode label))

def ascii? (cs : List Char) : Option String := do
  let folded ← cs.mapM fold?
  let labels ← labels? (composed folded.flatten)
  let written ← labels.mapM asciiLabel?
  some (".".intercalate written)

end Parley.DomainName
