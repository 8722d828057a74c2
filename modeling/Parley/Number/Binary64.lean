namespace Parley

inductive Binary64
  | nan
  | infinite (negative : Bool)
  /-- The value `mantissa * 2 ^ exponent`. -/
  | finite (negative : Bool) (mantissa : Nat) (exponent : Int)
  deriving DecidableEq, Repr

namespace Binary64

/-- Whether a value is one that 64 bits hold, in its only form: a mantissa of 53 bits, and the least
exponent where it has fewer. -/
def Representable : Binary64 → Prop
  | nan | infinite _ => True
  | finite _ m q =>
    m < Nat.pow 2 53 ∧ -1074 ≤ q ∧ q ≤ 971 ∧ (Nat.pow 2 52 ≤ m ∨ q = -1074)

def roundEven (num den : Nat) : Nat :=
  let m := num / den
  let r := 2 * (num % den)
  if r < den then m else if den < r then m + 1 else m + m % 2

def scaled (num den : Nat) (q : Int) : Nat × Nat :=
  (num * Nat.pow 2 (-q).toNat, den * Nat.pow 2 q.toNat)

def exponentOf (num den : Nat) : Int :=
  let e : Int := (num.log2 : Int) - den.log2 - 52
  let s := scaled num den e
  max (if s.1 / s.2 < Nat.pow 2 52 then e - 1 else e) (-1074)

/-- The number nearest to `num / den`, of two the one with the even mantissa. -/
def ofRatio (negative : Bool) (num den : Nat) : Binary64 :=
  if num = 0 then finite negative 0 (-1074)
  else
    let q := exponentOf num den
    let s := scaled num den q
    let m := roundEven s.1 s.2
    let (m, q) := if m = Nat.pow 2 53 then (Nat.pow 2 52, q + 1) else (m, q)
    if 971 < q then infinite negative else finite negative m q

/-- The number nearest to `digits * 10 ^ power`. Far out of range the power is not worked out. -/
def ofDecimal (negative : Bool) (digits : Nat) (power : Int) : Binary64 :=
  let size : Int := (Nat.toDigits 10 digits).length + power
  if digits = 0 || size < -330 then finite negative 0 (-1074)
  else if 310 < size then infinite negative
  else ofRatio negative (digits * Nat.pow 10 power.toNat) (Nat.pow 10 (-power).toNat)

def ratio (mantissa : Nat) (exponent : Int) : Nat × Nat :=
  (mantissa * Nat.pow 2 exponent.toNat, Nat.pow 2 (-exponent).toNat)

def negate : Binary64 → Binary64
  | nan => nan
  | infinite s => infinite (!s)
  | finite s m q => finite (!s) m q

def isInfinite : Binary64 → Bool
  | infinite _ => true
  | _ => false

def mul : Binary64 → Binary64 → Binary64
  | finite s m p, finite t n q =>
    let a := ratio m p
    let b := ratio n q
    ofRatio (s != t) (a.1 * b.1) (a.2 * b.2)
  | finite s m _, infinite t | infinite t, finite s m _ => if m = 0 then nan else infinite (s != t)
  | infinite s, infinite t => infinite (s != t)
  | _, _ => nan

def div : Binary64 → Binary64 → Binary64
  | finite s m p, finite t n q =>
    if n = 0 then if m = 0 then nan else infinite (s != t)
    else
      let a := ratio m p
      let b := ratio n q
      ofRatio (s != t) (a.1 * b.2) (a.2 * b.1)
  | finite s _ _, infinite t => finite (s != t) 0 (-1074)
  | infinite s, finite t _ _ => infinite (s != t)
  | _, _ => nan

/-- The nearest whole number of 64 bits without sign, a half rounded up. What lies outside goes to
the nearer end of the range, and no number to zero. -/
def toWord : Binary64 → Nat
  | nan => 0
  | infinite negative => if negative then 0 else UInt64.size - 1
  | finite negative m q =>
    let r := ratio m q
    if negative then 0 else min ((2 * r.1 + r.2) / (2 * r.2)) (UInt64.size - 1)

end Binary64

end Parley
