namespace Parley.DomainName.Punycode

def bound : Nat := 0x100000000

def digitChar (d : Nat) : Char := Char.ofNat (if d < 26 then 'a'.toNat + d else '0'.toNat + (d - 26))

def digit? (c : Char) : Option Nat :=
  if 'a' ≤ c ∧ c ≤ 'z' then some (c.toNat - 'a'.toNat)
  else if 'A' ≤ c ∧ c ≤ 'Z' then some (c.toNat - 'A'.toNat)
  else if c.isDigit then some (c.toNat - '0'.toNat + 26)
  else none

/-- A digit below this ends a number; `place` grows by 36 from digit to digit. -/
def threshold (bias place : Nat) : Nat := min 26 (max 1 (place - bias))

theorem threshold_pos (bias place : Nat) : 1 ≤ threshold bias place := by
  unfold threshold
  omega

def shrink (n : Nat) : Nat × Nat :=
  if 455 < n then
    let (m, count) := shrink (n / 35)
    (m, count + 36)
  else (n, 0)
termination_by n
decreasing_by exact Nat.div_lt_self (by omega) (by omega)

def adapt (number size : Nat) (first : Bool) : Nat :=
  let n := if first then number / 700 else number / 2
  let (m, count) := shrink (n + n / size)
  count + 36 * m / (m + 38)

structure Reading where
  done : List Char
  code : Nat
  bias : Nat
  /-- Where the last character was put in, counted on. -/
  start : Nat
  number : Nat
  weight : Nat
  place : Nat

namespace Reading

def begin (done : List Char) : Reading := ⟨done, 0x80, 72, 0, 0, 1, 36⟩

def putIn (r : Reading) : Option Reading :=
  let size := r.done.length + 1
  let position := r.start + r.number
  let code := r.code + position / size
  if h : code.isValidChar then
    some ⟨r.done.insertIdx (position % size) (Char.ofNatAux code h), code,
      adapt r.number size (r.start == 0), position % size + 1, 0, 1, 36⟩
  else none

def step (r : Reading) (c : Char) : Option Reading := do
  let d ← digit? c
  let r := { r with number := r.number + d * r.weight }
  if bound ≤ r.start + r.number then none
  let t := threshold r.bias r.place
  if d < t then r.putIn
  else if bound ≤ r.weight * (36 - t) then none
  else some { r with weight := r.weight * (36 - t), place := r.place + 36 }

end Reading

def decode? (cs : List Char) : Option (List Char) := do
  let behind := (cs.reverse.takeWhile (· != '-')).reverse
  let before := cs.take (cs.length - behind.length - 1)
  if cs.any (fun c => 0x80 ≤ c.toNat) then none
  let numbers := if before.isEmpty then cs else behind
  let r ← numbers.foldlM Reading.step (.begin (before.map Char.toLower))
  if r.place = 36 then some r.done else none

def digits (bias place n : Nat) : List Char :=
  let t := threshold bias place
  if n < t then [digitChar n]
  else digitChar (t + (n - t) % (36 - t)) :: digits bias (place + 36) ((n - t) / (36 - t))
termination_by n
decreasing_by
  have := threshold_pos bias place
  exact Nat.lt_of_le_of_lt (Nat.div_le_self _ _) (by omega)

structure Writing where
  numbers : List (List Char)
  number : Nat
  bias : Nat
  size : Nat

def Writing.pass (least code : Nat) (w : Writing) (c : Char) : Writing :=
  if c.toNat < code then { w with number := w.number + 1 }
  else if c.toNat = code then
    ⟨digits w.bias 36 w.number :: w.numbers, 0, adapt w.number (w.size + 1) (w.size == least),
      w.size + 1⟩
  else w

def Writing.putIn (cs : List Char) (least next : Nat) (w : Writing) : List Nat → Writing
  | [] => w
  | code :: codes =>
    let w := { w with number := w.number + (code - next) * (w.size + 1) }
    let w := cs.foldl (Writing.pass least code) w
    Writing.putIn cs least (code + 1) { w with number := w.number + 1 } codes

def encode (cs : List Char) : List Char :=
  let plain := cs.filter (·.toNat < 0x80)
  let codes := ((cs.map Char.toNat).filter (0x80 ≤ ·)).mergeSort.eraseDups
  let w := Writing.putIn cs plain.length 0x80 ⟨[], 0, 72, plain.length⟩ codes
  plain ++ (if plain.isEmpty then [] else ['-']) ++ w.numbers.reverse.flatten

end Parley.DomainName.Punycode
