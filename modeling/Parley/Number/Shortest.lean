import Parley.Number.Binary64

namespace Parley.Binary64

def compareDecimal (n : Nat) (e : Int) (x : Nat) (q : Int) : Ordering :=
  compare (n * Nat.pow 10 e.toNat * Nat.pow 2 (-q).toNat)
    (x * Nat.pow 2 q.toNat * Nat.pow 10 (-e).toNat)

/-- Whether `n * 10 ^ e` rounds to `m * 2 ^ q`. The ends of the interval round to an even `m`; below
a power of two the interval is half as wide. -/
def readsBack (m : Nat) (q : Int) (n : Nat) (e : Int) : Bool :=
  let low := if m = Nat.pow 2 52 ∧ -1074 < q then 4 * m - 1 else 4 * m - 2
  let a := compareDecimal n e low (q - 2)
  let b := compareDecimal n e (4 * m + 2) (q - 2)
  (a == .gt || (a == .eq && m % 2 == 0)) && (b == .lt || (b == .eq && m % 2 == 0))

/-- How many digits stand before the point of `num / den`; zero or less counts the zeros after it. -/
def wholeDigits (num den : Nat) : Int :=
  if den ≤ num then (Nat.toDigits 10 (num / den)).length
  else
    match (List.range 400).find? (fun j => den ≤ num * Nat.pow 10 j) with
    | some j => 1 - (j : Int)
    | none => 0

inductive Tie
  | even
  | up
  deriving DecidableEq

/-- A neighbour of `m * 2 ^ q` on the grid of multiples of `10 ^ e` that reads back, the nearer one
if both do. -/
def onGrid (tie : Tie) (m : Nat) (q : Int) (e : Int) : Option (Nat × Int) :=
  let r := ratio m q
  let num := r.1 * Nat.pow 10 (-e).toNat
  let den := r.2 * Nat.pow 10 e.toNat
  let n := num / den
  let rest := 2 * (num % den)
  let below := rest < den || (rest == den && tie == .even && n % 2 == 0)
  match readsBack m q n e, readsBack m q (n + 1) e with
  | true, true => some (if below then n else n + 1, e)
  | true, false => some (n, e)
  | false, true => some (n + 1, e)
  | false, false => none

def shortest (tie : Tie) (m : Nat) (q : Int) : Nat × Int :=
  let r := ratio m q
  let k := wholeDigits r.1 r.2
  ((List.range' 1 17).findSome? (fun (n : Nat) => onGrid tie m q (k - n))).getD (m, 0)

structure Layout where
  tie : Tie
  /-- The point may stand this many places left or right of the first digit, if there is a limit;
  beyond it the text has an exponent. -/
  reach : Option (Int × Int)
  pointZero : Bool

def Layout.plain : Layout := ⟨.up, none, false⟩

def Layout.pointed : Layout := ⟨.up, none, true⟩

def Layout.compact : Layout := ⟨.even, some (-5, 16), true⟩

def zeros (n : Nat) : List Char := List.replicate n '0'

def positional (digits : List Char) (point : Int) (pointZero : Bool) : List Char :=
  if digits.length ≤ point then
    digits ++ zeros (point - digits.length).toNat ++ if pointZero then ['.', '0'] else []
  else if 0 < point then
    digits.take point.toNat ++ '.' :: digits.drop point.toNat
  else '0' :: '.' :: zeros (-point).toNat ++ digits

def withExponent (digits : List Char) (point : Int) : List Char :=
  let fraction := digits.drop 1
  digits.take 1 ++ (if fraction.isEmpty then [] else '.' :: fraction) ++ 'e' ::
    (if point < 1 then '-' else '+') :: (Nat.toDigits 10 (point - 1).natAbs).leftpad 2 '0'

def magnitude (layout : Layout) (m : Nat) (q : Int) : List Char :=
  if m = 0 then positional ['0'] 1 layout.pointZero
  else
    let (n, e) := shortest layout.tie m q
    let all := Nat.toDigits 10 n
    let digits := (all.reverse.dropWhile (· == '0')).reverse
    let point := e + all.length
    match layout.reach with
    | none => positional digits point layout.pointZero
    | some (least, most) =>
      if least < point ∧ point ≤ most then positional digits point layout.pointZero
      else withExponent digits point

def text (layout : Layout) : Binary64 → String
  | nan => "NaN"
  | infinite negative => if negative then "-inf" else "inf"
  | finite negative m q =>
    String.ofList ((if negative then ['-'] else []) ++ magnitude layout m q)

end Parley.Binary64
