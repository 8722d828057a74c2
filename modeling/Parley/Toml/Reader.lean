import Parley.Toml.Marked
import Parley.Toml.Node
import Parley.Toml.Number
import Parley.Toml.Text

namespace Parley.Toml

def skipSpaces (cs : List Char) : List Char := cs.dropWhile isSpace

def lineEnd? : List Char → Option (List Char)
  | '\n' :: cs => some cs
  | '\r' :: '\n' :: cs => some cs
  | _ => none

def skipComment : List Char → List Char
  | '#' :: cs => cs.dropWhile isPlain
  | cs => cs

def endLine (cs : List Char) : Option (List Char) :=
  match skipComment (skipSpaces cs) with
  | [] => some []
  | cs => lineEnd? cs

def skipLines (inComment : Bool) : List Char → Option (List Char)
  | '\r' :: '\n' :: cs => skipLines false cs
  | '\n' :: cs => skipLines false cs
  | c :: cs =>
    if inComment then if isPlain c then skipLines true cs else none
    else if isSpace c then skipLines false cs
    else if c = '#' then skipLines true cs
    else some (c :: cs)
  | [] => some []

def isBare (c : Char) : Bool := c.isAlphanum || c == '_' || c == '-'

def readKeyPart : Reads String := fun cs =>
  match cs with
  | '"' :: _ | '\'' :: _ => readLineString cs
  | cs =>
    let (part, rest) := cs.span isBare
    if part.isEmpty then none else some (String.ofList part, rest)

def deepest : Nat := 79

def readKey (most : Nat) : Reads (List String × String) := fun cs =>
  match most with
  | 0 => none
  | most + 1 => do
    let (part, cs) ← readKeyPart (skipSpaces cs)
    match skipSpaces cs with
    | '.' :: cs =>
      let ((path, name), cs) ← readKey most cs
      some ((part :: path, name), cs)
    | cs => some (([], part), cs)

def readScalar : Reads Value := fun cs =>
  match cs with
  | '"' :: _ | '\'' :: _ => (readString cs).map (fun (s, cs) => (.string s, cs))
  | 't' :: 'r' :: 'u' :: 'e' :: cs => some (.boolean true, cs)
  | 'f' :: 'a' :: 'l' :: 's' :: 'e' :: cs => some (.boolean false, cs)
  | cs =>
    match readMoment cs with
    | some (text, cs) => some (.moment text, cs)
    | none => readNumber cs

mutual

/-- A value with at most `depth` arrays and tables inside each other. -/
def readValue (fuel depth : Nat) : Reads Value := fun cs =>
  match fuel, cs, depth with
  | fuel + 1, '[' :: cs, depth + 1 => readItems fuel depth [] cs
  | fuel + 1, '\x7b' :: cs, depth + 1 =>
    match skipSpaces cs with
    | '\x7d' :: cs => some (.table [], cs)
    | cs => readPairs fuel depth [] cs
  | _, cs, _ => readScalar cs

def readItems (fuel depth : Nat) (done : List Value) : Reads Value := fun cs =>
  match fuel with
  | 0 => none
  | fuel + 1 => do
    match ← skipLines false cs with
    | ']' :: cs => some (.array done.reverse, cs)
    | cs =>
      let (item, cs) ← readValue fuel depth cs
      match ← skipLines false cs with
      | ',' :: cs => readItems fuel depth (item :: done) cs
      | ']' :: cs => some (.array (item :: done).reverse, cs)
      | _ => none

def readPairs (fuel depth : Nat) (done : Entries) : Reads Value := fun cs =>
  match fuel with
  | 0 => none
  | fuel + 1 => do
    let ((path, name), cs) ← readKey deepest cs
    let ((), cs) ← expect '=' cs
    let (value, cs) ← readValue fuel depth (skipSpaces cs)
    let done ← done.add path name (.leaf value) .defined
    match skipSpaces cs with
    | ',' :: cs => readPairs fuel depth done cs
    | '\x7d' :: cs => some (.table (valuesOf done), cs)
    | _ => none

end

/-- The tables read so far, and the path of the header that is in force. -/
structure Document where
  entries : Entries
  header : List String

namespace Document

def empty : Document := ⟨[], []⟩

def add (d : Document) (path : List String) (name : String) (value : Value) : Option Document := do
  let entries ← d.entries.within .implied
    (fun making entries => entries.add path name (.leaf value) making) d.header .defined
  some { d with entries }

def readStatement (d : Document) (cs : List Char) : Option (Document × List Char) :=
  match cs with
  | '#' :: _ | '\n' :: _ | '\r' :: _ => (endLine cs).map (fun cs => (d, cs))
  | '[' :: '[' :: cs => do
    let ((path, name), cs) ← readKey deepest cs
    let ((), cs) ← expect ']' cs
    let ((), cs) ← expect ']' cs
    some (⟨← d.entries.append path name, path ++ [name]⟩, ← endLine cs)
  | '[' :: cs => do
    let ((path, name), cs) ← readKey deepest cs
    let ((), cs) ← expect ']' cs
    some (⟨← d.entries.define path name, path ++ [name]⟩, ← endLine cs)
  | cs => do
    let ((path, name), cs) ← readKey deepest cs
    let ((), cs) ← expect '=' cs
    let cs := skipSpaces cs
    let (value, cs) ← readValue (2 * cs.length + 2) deepest cs
    some (← d.add path name value, ← endLine cs)

/-- All statements. Each takes at least one character, so `fuel` is the length of the text. -/
def readStatements (fuel : Nat) (d : Document) (cs : List Char) : Option Document :=
  match fuel, skipSpaces cs with
  | _, [] => some d
  | 0, _ => none
  | fuel + 1, cs => do
    let (d, cs) ← d.readStatement cs
    readStatements fuel d cs

end Document

/-- The entries of a TOML text; `none` for a text that is not TOML or stands for a moment as a whole.
A byte order mark before it is skipped. -/
def read? (text : String) : Option (List (String × Value)) := do
  let cs := match text.toList with
    | '\ufeff' :: cs => cs
    | cs => cs
  let d ← Document.empty.readStatements cs.length cs
  match ← unmarkTable? (valuesOf d.entries) with
  | .table entries => some entries
  | _ => none

end Parley.Toml
