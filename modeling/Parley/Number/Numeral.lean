import Parley.Number.Binary64

namespace Parley.Numeral

def digitValue (c : Char) : Nat := c.toNat - '0'.toNat

def ofDigits (cs : List Char) : Nat := cs.foldl (fun n c => 10 * n + digitValue c) 0

def splitSign : List Char → Bool × List Char
  | '-' :: cs => (true, cs)
  | '+' :: cs => (false, cs)
  | cs => (false, cs)

def natural? (cs : List Char) : Option Nat :=
  if !cs.isEmpty && cs.all Char.isDigit then some (ofDigits cs) else none

def signedBound : Nat := UInt64.size / 2

def int64? (s : String) : Option Int := do
  let (negative, cs) := splitSign s.toList
  let n ← natural? cs
  if negative then if n ≤ signedBound then some (-(n : Int)) else none
  else if n < signedBound then some n else none

def word? (s : String) : Option Nat := do
  let cs := match s.toList with
    | '+' :: cs => cs
    | cs => cs
  let n ← natural? cs
  if n < UInt64.size then some n else none

def exponent? : List Char → Option Int
  | [] => some 0
  | c :: cs =>
    if c = 'e' ∨ c = 'E' then
      let (negative, cs) := splitSign cs
      (natural? cs).map (fun n => if negative then -(n : Int) else n)
    else none

def decimal? (negative : Bool) (cs : List Char) : Option Binary64 := do
  let (whole, rest) := cs.span Char.isDigit
  let (fraction, rest) := match rest with
    | '.' :: rest => rest.span Char.isDigit
    | rest => ([], rest)
  let e ← exponent? rest
  if whole.isEmpty && fraction.isEmpty then none
  else some (.ofDecimal negative (ofDigits (whole ++ fraction)) (e - fraction.length))

def binary64? (s : String) : Option Binary64 :=
  let (negative, cs) := splitSign s.toList
  let word := cs.map Char.toLower
  if word = "inf".toList ∨ word = "infinity".toList then some (.infinite negative)
  else if word = "nan".toList then some .nan
  else decimal? negative cs

end Parley.Numeral
