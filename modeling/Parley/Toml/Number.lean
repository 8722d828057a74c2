import Parley.Json.Token
import Parley.Toml.Moment
import Parley.Toml.Value

namespace Parley.Toml

def readDigits (isDigit : Char → Bool) (done : List Char) : Reads (List Char)
  | '_' :: c :: cs =>
    if !done.isEmpty && isDigit c then readDigits isDigit (c :: done) cs else none
  | c :: cs =>
    if isDigit c then readDigits isDigit (c :: done) cs
    else if c = '_' ∨ done.isEmpty then none
    else some (done.reverse, c :: cs)
  | [] => if done.isEmpty then none else some (done.reverse, [])

def inRange (n : Int) : Option Value :=
  if -(Numeral.signedBound : Int) ≤ n ∧ n < Numeral.signedBound then some (.integer n) else none

def readBase (base : Nat) : Reads Value := fun cs => do
  let isDigit (c : Char) : Bool := (Json.hexDigit? c).any (· < base)
  let (ds, cs) ← readDigits isDigit [] cs
  let n := ds.foldl (fun n c => base * n + (Json.hexDigit? c).getD 0) 0
  some (← inRange n, cs)

/-- What stands before the point: no zero leads another digit. -/
def readWhole : Reads (List Char)
  | '0' :: cs => some (['0'], cs)
  | cs => readDigits Char.isDigit [] cs

def readExponent : Reads (Option Int) := fun cs =>
  match cs with
  | c :: rest =>
    if c = 'e' ∨ c = 'E' then do
      let (negative, rest) := Numeral.splitSign rest
      let (ds, rest) ← readDigits Char.isDigit [] rest
      let n : Int := Numeral.ofDigits ds
      some (some (if negative then -n else n), rest)
    else some (none, c :: rest)
  | [] => some (none, [])

def readFractionDigits : Reads (Option (List Char)) := fun cs =>
  match cs with
  | '.' :: cs => (readDigits Char.isDigit [] cs).map (fun (ds, cs) => (some ds, cs))
  | cs => some (none, cs)

/-- A number in base ten behind its sign. One too large for a floating point number is refused,
though not when it is negative. -/
def readDecimal (negative : Bool) : Reads Value := do
  let whole ← readWhole
  let fraction ← readFractionDigits
  let exponent ← readExponent
  match fraction, exponent with
  | none, none =>
    let n : Int := Numeral.ofDigits whole
    inRange (if negative then -n else n)
  | _, _ =>
    let fraction := fraction.getD []
    let x := Binary64.ofDecimal negative (Numeral.ofDigits (whole ++ fraction))
      (exponent.getD 0 - fraction.length)
    if x = .infinite false then failure else return .float x

def readNumber : Reads Value := fun cs =>
  match cs with
  | '0' :: 'x' :: cs => readBase 16 cs
  | '0' :: 'o' :: cs => readBase 8 cs
  | '0' :: 'b' :: cs => readBase 2 cs
  | cs =>
    let (negative, rest) := Numeral.splitSign cs
    match rest with
    | 'i' :: 'n' :: 'f' :: rest => some (.float (.infinite negative), rest)
    | 'n' :: 'a' :: 'n' :: rest => some (.float .nan, rest)
    | rest => readDecimal negative rest

end Parley.Toml
