import Parley.Json.Basic
import Parley.Number.Numeral

namespace Parley.Json
open Numeral

/-- Appends digits as long as the number fits a word; gives back those that are left. -/
def appendDigits (n : Nat) : List Char → Nat × List Char
  | [] => (n, [])
  | c :: cs =>
    let m := 10 * n + digitValue c
    if m < UInt64.size then appendDigits m cs else (n, c :: cs)

def powerOfTen (e : Nat) : Binary64 := .ofDecimal false 1 e

def isZero : Binary64 → Bool
  | .finite _ m _ => m == 0
  | _ => false

/-- `x * 10 ^ e`, in steps of powers that are in range; `none` if that is too large. -/
def scale (x : Binary64) (e : Int) : Option Binary64 :=
  if 0 ≤ e then
    if e ≤ 308 then
      let y := x.mul (powerOfTen e.toNat)
      if y.isInfinite then none else some y
    else if isZero x then some x else none
  else if -308 ≤ e then some (x.div (powerOfTen (-e).toNat))
  else if isZero x then some x
  else scale (x.div (powerOfTen 308)) (e + 308)
  termination_by (-e).toNat

structure Numeral where
  negative : Bool
  whole : List Char
  fraction : Option (List Char)
  exponent : Option Int

/-- A numeral starts with a digit or a minus; its whole part has no leading zero, and a point or an
exponent mark is followed by a digit. -/
def readNumeral (cs : List Char) : Option (Numeral × List Char) := do
  let (negative, cs) := match cs with
    | '-' :: cs => (true, cs)
    | cs => (false, cs)
  let (whole, cs) := cs.span Char.isDigit
  if whole.isEmpty || (whole.length != 1 && whole.head? == some '0') then none
  let (fraction, cs) ← match cs with
    | '.' :: cs =>
      let (digits, cs) := cs.span Char.isDigit
      if digits.isEmpty then none else some (some digits, cs)
    | cs => some (none, cs)
  let (exponent, cs) ← match cs with
    | c :: rest =>
      if c = 'e' ∨ c = 'E' then
        let (minus, rest) := splitSign rest
        let (digits, rest) := rest.span Char.isDigit
        if digits.isEmpty then none
        else
          let e : Int := ofDigits digits
          some (some (if minus then -e else e), rest)
      else some (none, cs)
    | [] => some (none, cs)
  some (⟨negative, whole, fraction, exponent⟩, cs)

def exponentBound : Int := 2147483648

def Numeral.float? (n : Numeral) : Option Binary64 := do
  let (digits, left) := appendDigits 0 n.whole
  let fraction := n.fraction.getD []
  let (digits, dropped) := appendDigits digits fraction
  let e : Int := left.length - ((fraction.length : Int) - dropped.length)
  let x : Binary64 := .ofRatio false digits 1
  let y ← match n.exponent with
    | none => scale x e
    | some k =>
      if exponentBound ≤ k then if digits = 0 then some x else none
      else if k ≤ -exponentBound then some (.ofRatio false 0 1)
      else scale x (e + k)
  some (if n.negative then y.negate else y)

/-- The value of a numeral. Minus zero is a floating point number. -/
def Numeral.value? (n : Numeral) : Option Json :=
  let digits := ofDigits n.whole
  match n.fraction, n.exponent with
  | none, none =>
    if n.negative then
      if digits ≠ 0 ∧ digits ≤ signedBound then some (.int (-(digits : Int))) else n.float?.map .float
    else if digits < UInt64.size then some (.int digits)
    else n.float?.map .float
  | _, _ => n.float?.map .float

end Parley.Json
