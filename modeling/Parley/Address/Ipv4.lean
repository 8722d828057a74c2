namespace Parley

structure Ipv4 where
  number : UInt32
  deriving DecidableEq

namespace Ipv4

def digit? (base : Nat) (c : Char) : Option Nat :=
  let d := if c.isDigit then c.toNat - '0'.toNat else c.toNat - 'a'.toNat + 10
  if (c.isDigit || ('a' ≤ c && c ≤ 'f')) && d < base then some d else none

def numeral? (base : Nat) (ds : List Char) : Option Nat :=
  ds.foldlM (fun n c => (digit? base c).map (base * n + ·)) 0

def part? : List Char → Option Nat
  | [] => none
  | '0' :: 'x' :: ds => numeral? 16 ds
  | '0' :: d :: ds => numeral? 8 (d :: ds)
  | ds => numeral? 10 ds

def join? : List Nat → Option Nat
  | [a] => if a < Nat.pow 256 4 then some a else none
  | [a, b] => if a < 256 ∧ b < Nat.pow 256 3 then some (a * Nat.pow 256 3 + b) else none
  | [a, b, c] =>
    if a < 256 ∧ b < 256 ∧ c < Nat.pow 256 2 then some ((a * 256 + b) * Nat.pow 256 2 + c)
    else none
  | [a, b, c, d] =>
    if a < 256 ∧ b < 256 ∧ c < 256 ∧ d < 256 then some (((a * 256 + b) * 256 + c) * 256 + d)
    else none
  | _ => none

/-- The parts between the points of a name. A point at its end counts for nothing. -/
def parts (name : String) : List String :=
  let parts := name.splitOn "."
  if 1 < parts.length && parts.getLast? == some "" then parts.dropLast else parts

def isNumeric (name : String) : Bool :=
  let last := ((parts name).getLastD "").toList
  (!last.isEmpty && last.all Char.isDigit) || (part? last).isSome

def read? (name : String) : Option Ipv4 := do
  let n ← join? (← (parts name).mapM (fun p => part? p.toList))
  some ⟨UInt32.ofNat n⟩

def text (a : Ipv4) : String :=
  let byte (i : Nat) : String := toString (a.number.toNat / Nat.pow 256 i % 256)
  ".".intercalate [byte 3, byte 2, byte 1, byte 0]

end Ipv4

end Parley
