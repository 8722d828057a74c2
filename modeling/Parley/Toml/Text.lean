import Parley.Json.Token

namespace Parley.Toml

def isSpace (c : Char) : Bool := c == ' ' || c == '\t'

def isPlain (c : Char) : Bool :=
  c == '\t' || (0x20 ≤ c.toNat && c.toNat ≠ 0x7f)

def scalar? (digits : List Char) : Option Char := do
  let n ← digits.foldlM (fun n c => (Json.hexDigit? c).map (fun d => 16 * n + d)) 0
  if n < 0xd800 ∨ (0xe000 ≤ n ∧ n < 0x110000) then some (Char.ofNat n) else none

def escaped? : Char → Option Char
  | 'b' => some '\x08'
  | 't' => some '\t'
  | 'n' => some '\n'
  | 'f' => some '\x0c'
  | 'r' => some '\r'
  | '"' => some '"'
  | '\\' => some '\\'
  | _ => none

def readBasic (done : List Char) : List Char → Option (String × List Char)
  | '"' :: cs => some (String.ofList done.reverse, cs)
  | '\\' :: 'u' :: a :: b :: c :: d :: cs =>
    match scalar? [a, b, c, d] with
    | some x => readBasic (x :: done) cs
    | none => none
  | '\\' :: 'U' :: a :: b :: c :: d :: e :: f :: g :: h :: cs =>
    match scalar? [a, b, c, d, e, f, g, h] with
    | some x => readBasic (x :: done) cs
    | none => none
  | '\\' :: c :: cs =>
    match escaped? c with
    | some x => readBasic (x :: done) cs
    | none => none
  | c :: cs => if isPlain c then readBasic (c :: done) cs else none
  | [] => none

def readLiteral (done : List Char) : List Char → Option (String × List Char)
  | '\'' :: cs => some (String.ofList done.reverse, cs)
  | c :: cs => if isPlain c then readLiteral (c :: done) cs else none
  | [] => none

/-- The end of a string of several lines, behind three quotes: up to two more quotes belong to the
text. -/
def closeLong (quote : Char) (done : List Char) (cs : List Char) : Option (String × List Char) :=
  let extra := cs.takeWhile (· == quote)
  if extra.length ≤ 2 then
    some (String.ofList (done.reverse ++ extra), cs.drop extra.length)
  else none

inductive Joining
  | no
  /-- The line has still to end. -/
  | line
  /-- All blanks and line ends are skipped. -/
  | lines

def readLongBasic (joining : Joining) (done : List Char) :
    List Char → Option (String × List Char)
  | '\r' :: '\n' :: cs =>
    match joining with
    | .no => readLongBasic .no ('\n' :: done) cs
    | _ => readLongBasic .lines done cs
  | '\n' :: cs =>
    match joining with
    | .no => readLongBasic .no ('\n' :: done) cs
    | _ => readLongBasic .lines done cs
  | c :: cs =>
    match joining, isSpace c with
    | .line, true => readLongBasic .line done cs
    | .line, false => none
    | .lines, true => readLongBasic .lines done cs
    | _, _ =>
      match c, cs with
      | '"', '"' :: '"' :: cs => closeLong '"' done cs
      | '\\', 'u' :: a :: b :: c :: d :: cs =>
        match scalar? [a, b, c, d] with
        | some x => readLongBasic .no (x :: done) cs
        | none => none
      | '\\', 'U' :: a :: b :: c :: d :: e :: f :: g :: h :: cs =>
        match scalar? [a, b, c, d, e, f, g, h] with
        | some x => readLongBasic .no (x :: done) cs
        | none => none
      | '\\', e :: rest =>
        match escaped? e with
        | some x => readLongBasic .no (x :: done) rest
        | none => readLongBasic .line done (e :: rest)
      | c, cs => if isPlain c && c != '\\' then readLongBasic .no (c :: done) cs else none
  | [] => none

def readLongLiteral (done : List Char) : List Char → Option (String × List Char)
  | '\'' :: '\'' :: '\'' :: cs => closeLong '\'' done cs
  | '\r' :: '\n' :: cs => readLongLiteral ('\n' :: done) cs
  | c :: cs => if isPlain c || c == '\n' then readLongLiteral (c :: done) cs else none
  | [] => none

def skipLineEnd : List Char → List Char
  | '\n' :: cs => cs
  | '\r' :: '\n' :: cs => cs
  | cs => cs

def readLineString : List Char → Option (String × List Char)
  | '"' :: cs => readBasic [] cs
  | '\'' :: cs => readLiteral [] cs
  | _ => none

def readString : List Char → Option (String × List Char)
  | '"' :: '"' :: '"' :: cs => readLongBasic .no [] (skipLineEnd cs)
  | '\'' :: '\'' :: '\'' :: cs => readLongLiteral [] (skipLineEnd cs)
  | cs => readLineString cs

end Parley.Toml
