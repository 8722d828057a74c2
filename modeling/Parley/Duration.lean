namespace Parley

structure Duration where
  nanoseconds : Nat
  deriving DecidableEq, Repr

namespace Duration

def ofSeconds (n : Nat) : Duration := ⟨n * 1000000000⟩

def ofMilliseconds (n : Nat) : Duration := ⟨n * 1000000⟩

def milliseconds (d : Duration) : Nat := d.nanoseconds / 1000000

/-- The decimals of `part` in units of one `unit`-th, behind a point, without closing zeros. -/
def decimals (unit part : Nat) : String :=
  let digits := (Nat.toDigits 10 (unit + part)).drop 1
  let kept := (digits.reverse.dropWhile (· == '0')).reverse
  if kept.isEmpty then "" else String.ofList ('.' :: kept)

def text (d : Duration) : String :=
  let n := d.nanoseconds
  if 1000000000 ≤ n then s!"{n / 1000000000}{decimals 1000000000 (n % 1000000000)}s"
  else if 1000000 ≤ n then s!"{n / 1000000}{decimals 1000000 (n % 1000000)}ms"
  else if 1000 ≤ n then s!"{n / 1000}{decimals 1000 (n % 1000)}µs"
  else s!"{n}ns"

end Duration

end Parley
