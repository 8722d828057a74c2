import Parley.Json.Number

namespace Parley.Json

inductive Token
  | openArray
  | closeArray
  | openObject
  | closeObject
  | comma
  | colon
  | text (s : String)
  | scalar (value : Json)

def hexDigit? (c : Char) : Option Nat :=
  if c.isDigit then some (c.toNat - '0'.toNat)
  else if 'a' ≤ c ∧ c ≤ 'f' then some (c.toNat - 'a'.toNat + 10)
  else if 'A' ≤ c ∧ c ≤ 'F' then some (c.toNat - 'A'.toNat + 10)
  else none

def hex4? (a b c d : Char) : Option Nat := do
  some (((← hexDigit? a) * 16 + (← hexDigit? b)) * 256 + (← hexDigit? c) * 16 + (← hexDigit? d))

def escaped? : Char → Option Char
  | '"' => some '"'
  | '\\' => some '\\'
  | '/' => some '/'
  | 'b' => some '\x08'
  | 'f' => some '\x0c'
  | 'n' => some '\n'
  | 'r' => some '\r'
  | 't' => some '\t'
  | _ => none

/-- The rest of a text behind its opening quote. A number above the first plane is written as two
halves, and no half may stand alone. -/
def readText (done : List Char) : List Char → Option (String × List Char)
  | [] => none
  | '"' :: cs => some (String.ofList done.reverse, cs)
  | '\\' :: 'u' :: a :: b :: c :: d :: cs =>
    match hex4? a b c d with
    | none => none
    | some n =>
      if 0xd800 ≤ n ∧ n < 0xdc00 then
        match cs with
        | '\\' :: 'u' :: a :: b :: c :: d :: cs =>
          match hex4? a b c d with
          | none => none
          | some m =>
            if 0xdc00 ≤ m ∧ m < 0xe000 then
              readText (Char.ofNat (0x10000 + (n - 0xd800) * 1024 + (m - 0xdc00)) :: done) cs
            else none
        | _ => none
      else if 0xdc00 ≤ n ∧ n < 0xe000 then none
      else readText (Char.ofNat n :: done) cs
  | '\\' :: c :: cs =>
    match escaped? c with
    | some c => readText (c :: done) cs
    | none => none
  | c :: cs => if c.toNat < 0x20 then none else readText (c :: done) cs

def isSpace (c : Char) : Bool := c == ' ' || c == '\n' || c == '\t' || c == '\r'

def readToken (cs : List Char) : Option (Token × List Char) :=
  match cs with
  | '[' :: cs => some (.openArray, cs)
  | ']' :: cs => some (.closeArray, cs)
  | '\x7b' :: cs => some (.openObject, cs)
  | '\x7d' :: cs => some (.closeObject, cs)
  | ',' :: cs => some (.comma, cs)
  | ':' :: cs => some (.colon, cs)
  | '"' :: cs => (readText [] cs).map (fun (s, cs) => (.text s, cs))
  | 't' :: 'r' :: 'u' :: 'e' :: cs => some (.scalar (.bool true), cs)
  | 'f' :: 'a' :: 'l' :: 's' :: 'e' :: cs => some (.scalar (.bool false), cs)
  | 'n' :: 'u' :: 'l' :: 'l' :: cs => some (.scalar .null, cs)
  | cs => do
    let (n, cs) ← readNumeral cs
    some (.scalar (← n.value?), cs)

/-- All tokens. Each takes at least one character, so `fuel` is the length of the text. -/
def tokensWithin (fuel : Nat) (cs : List Char) : Option (List Token) :=
  match fuel, cs.dropWhile isSpace with
  | _, [] => some []
  | 0, _ => none
  | fuel + 1, cs => do
    let (t, cs) ← readToken cs
    some (t :: (← tokensWithin fuel cs))

def tokens (cs : List Char) : Option (List Token) := tokensWithin cs.length cs

end Parley.Json
