import Parley.Address.Percent
import Parley.Number.Numeral

namespace Parley

structure Ipv6 where
  pieces : List UInt16
  size_eq : pieces.length = 8
  deriving DecidableEq

namespace Ipv6

def piece? (cs : List Char) : Option UInt16 := do
  if cs.isEmpty || 4 < cs.length then none
  let n ← cs.foldlM (fun n c => (Percent.hexValue? c).map (16 * n + ·)) 0
  some (UInt16.ofNat n)

def byte? (cs : List Char) : Option Nat := do
  let n ← Numeral.natural? cs
  if n < 256 && (cs.head? != some '0' || cs == ['0']) then some n else none

def last? (s : String) : Option (List UInt16) := do
  match (s.splitOn ".").map String.toList with
  | [cs] => some [← piece? cs]
  | [a, b, c, d] =>
    some [UInt16.ofNat (256 * (← byte? a) + (← byte? b)),
      UInt16.ofNat (256 * (← byte? c) + (← byte? d))]
  | _ => none

def pieces? (parts : List String) : Option (List UInt16) := parts.mapM (fun s => piece? s.toList)

def run? (s : String) : Option (List UInt16) := do
  let parts := s.splitOn ":"
  some ((← pieces? parts.dropLast) ++ (← last? (parts.getLastD "")))

def ofPieces? (pieces : List UInt16) : Option Ipv6 :=
  if h : pieces.length = 8 then some ⟨pieces, h⟩ else none

/-- Reads eight pieces, or fewer of them around `::`, which stands for the zeros that are left
out. -/
def read? (s : String) : Option Ipv6 := do
  match s.splitOn "::" with
  | [run] => ofPieces? (← run? run)
  | before :: behind =>
    let behind := "::".intercalate behind
    let high ← if before.isEmpty then some [] else pieces? (before.splitOn ":")
    let low ← if behind.isEmpty then some [] else run? behind
    let left := 8 - (high.length + low.length)
    if left = 0 then none
    else ofPieces? (high ++ List.replicate left 0 ++ low)
  | [] => none

def zeros (pieces : List UInt16) (i : Nat) : Nat := ((pieces.drop i).takeWhile (· == 0)).length

def longestZeros (pieces : List UInt16) : Nat :=
  (List.range 8).foldl (fun best i => if zeros pieces best < zeros pieces i then i else best) 0

def pieceText (n : UInt16) : String := String.ofList (Nat.toDigits 16 n.toNat)

/-- The longest run of zeros is left out if it is more than one piece. -/
def text (a : Ipv6) : String :=
  let write (pieces : List UInt16) : String := ":".intercalate (pieces.map pieceText)
  let start := longestZeros a.pieces
  let count := zeros a.pieces start
  if count < 2 then write a.pieces
  else write (a.pieces.take start) ++ "::" ++ write (a.pieces.drop (start + count))

end Ipv6

end Parley
