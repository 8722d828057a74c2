import Parley.Number.Numeral

namespace Parley.Toml

abbrev Reads (α : Type) := StateT (List Char) Option α

def expect (c : Char) : Reads Unit := fun cs =>
  match cs with
  | d :: cs => if c = d then some ((), cs) else none
  | [] => none

def digitsBetween (count low high : Nat) : Reads Nat := fun cs =>
  let ds := cs.take count
  let n := Numeral.ofDigits ds
  if ds.length = count && ds.all Char.isDigit && low ≤ n && n ≤ high then
    some (n, cs.drop count)
  else none

def padded (width n : Nat) : String := String.ofList ((Nat.toDigits 10 n).leftpad width '0')

def isLeap (year : Nat) : Bool := year % 4 == 0 && (year % 100 != 0 || year % 400 == 0)

def daysOf (year month : Nat) : Nat :=
  if month = 2 then if isLeap year then 29 else 28
  else if month ∈ [4, 6, 9, 11] then 30
  else 31

def readDate : Reads String := do
  let year ← digitsBetween 4 0 9999
  expect '-'
  let month ← digitsBetween 2 1 12
  expect '-'
  let day ← digitsBetween 2 1 (daysOf year month)
  return s!"{padded 4 year}-{padded 2 month}-{padded 2 day}"

/-- A fraction of a second. Nine digits count, and zeros at the end are not written. -/
def readFraction : Reads String := fun cs =>
  match cs with
  | '.' :: cs =>
    let (ds, rest) := cs.span Char.isDigit
    let kept := ((ds.take 9).reverse.dropWhile (· == '0')).reverse
    if ds.isEmpty then none
    else some (if kept.isEmpty then "" else String.ofList ('.' :: kept), rest)
  | cs => some ("", cs)

def readTime (lastHour : Nat) : Reads String := do
  let hour ← digitsBetween 2 0 lastHour
  expect ':'
  let minute ← digitsBetween 2 0 59
  expect ':'
  let second ← digitsBetween 2 0 60
  let fraction ← readFraction
  return s!"{padded 2 hour}:{padded 2 minute}:{padded 2 second}{fraction}"

/-- The offset behind a time, if there is one. No distance is always ahead. -/
def readOffset : Reads String := fun cs =>
  match cs with
  | 'Z' :: cs | 'z' :: cs => some ("Z", cs)
  | c :: rest =>
    if c = '+' ∨ c = '-' then do
      let (hour, rest) ← digitsBetween 2 0 23 rest
      let ((), rest) ← expect ':' rest
      let (minute, rest) ← digitsBetween 2 0 59 rest
      let sign := if hour = 0 ∧ minute = 0 then '+' else c
      some (s!"{sign}{padded 2 hour}:{padded 2 minute}", rest)
    else some ("", c :: rest)
  | [] => some ("", [])

def readMoment : Reads String := fun cs =>
  match readDate cs with
  | none => readTime 23 cs
  | some (date, c :: rest) =>
    if c = 'T' ∨ c = 't' ∨ c = ' ' then
      match (do return (← readTime 23) ++ (← readOffset) : Reads String) rest with
      | some (time, rest) => some (s!"{date}T{time}", rest)
      | none => some (date, c :: rest)
    else some (date, c :: rest)
  | some (date, []) => some (date, [])

def offset? : List Char → Option String
  | [] => some ""
  | ['Z'] | ['z'] => some "Z"
  | sign :: cs => do
    let (hours, cs) ← digitsBetween 2 0 99 cs
    let ((), cs) ← expect ':' cs
    let (minutes, cs) ← digitsBetween 2 0 99 cs
    let distance := 60 * hours + minutes
    if (sign ≠ '+' ∧ sign ≠ '-') ∨ !cs.isEmpty ∨ 24 * 60 < distance then none
    else
      let sign := if distance = 0 then '+' else sign
      some s!"{sign}{padded 2 (distance / 60)}:{padded 2 (distance % 60)}"

def moment? (s : String) : Option String :=
  let cs := s.toList
  if cs[2]? = some ':' then
    match readTime 24 cs with
    | some (time, []) => some time
    | _ => none
  else
    match readDate cs with
    | some (date, []) => some date
    | some (date, c :: cs) =>
      if c = 'T' ∨ c = 't' ∨ c = ' ' then do
        let (time, cs) ← readTime 24 cs
        some s!"{date}T{time}{← offset? cs}"
      else none
    | none => none

end Parley.Toml
