import Parley.Toml.Value

namespace Parley.Toml

inductive Making
  | defined
  | implied
  | dotted
  deriving DecidableEq

inductive Node
  | leaf (value : Value)
  | table (making : Making) (entries : List (String × Node))
  /-- The tables under a header in double brackets, the latest and those before it. -/
  | series (latest : List (String × Node)) (earlier : List (List (String × Node)))

abbrev Entries := List (String × Node)

namespace Entries

def put (name : String) (node : Node) : Entries → Entries
  | [] => [(name, node)]
  | (n, old) :: rest => if n = name then (n, node) :: rest else (n, old) :: put name node rest

/-- Changes the table that a path leads to. Tables missing on the way are made as `missing`, and a
series is entered at its latest table. A path of a dotted key must not enter a defined table. -/
def within (missing : Making) (change : Making → Entries → Option Entries) :
    List String → Making → Entries → Option Entries
  | [], making, entries => change making entries
  | name :: path, _, entries =>
    match entries.lookup name with
    | none => (within missing change path missing []).map (fun es =>
        put name (.table missing es) entries)
    | some (.leaf _) => none
    | some (.table making inner) =>
      if missing = .dotted ∧ making = .defined then none
      else (within missing change path making inner).map (fun es =>
        put name (.table making es) entries)
    | some (.series latest earlier) => (within missing change path .defined latest).map (fun es =>
        put name (.series es earlier) entries)

/-- Adds a new entry. A dotted key adds only to tables that dotted keys have made. -/
def add (path : List String) (name : String) (node : Node) (making : Making) (entries : Entries) :
    Option Entries :=
  within .dotted (fun making entries =>
    if decide (making = .dotted) == path.isEmpty then none
    else if (entries.lookup name).isSome then none
    else some (put name node entries)) path making entries

def define (path : List String) (name : String) (entries : Entries) : Option Entries :=
  within .implied (fun _ entries =>
    match entries.lookup name with
    | none => some (put name (.table .defined []) entries)
    | some (.table .implied es) => some (put name (.table .defined es) entries)
    | _ => none) path .defined entries

def append (path : List String) (name : String) (entries : Entries) : Option Entries :=
  within .implied (fun _ entries =>
    match entries.lookup name with
    | none => some (put name (.series [] []) entries)
    | some (.series latest earlier) => some (put name (.series [] (latest :: earlier)) entries)
    | _ => none) path .defined entries

end Entries

mutual

def Node.value : Node → Value
  | .leaf value => value
  | .table _ entries => .table (valuesOf entries)
  | .series latest earlier => .array (tablesOf earlier [.table (valuesOf latest)])

def valuesOf : List (String × Node) → List (String × Value)
  | [] => []
  | (name, node) :: rest => (name, node.value) :: valuesOf rest

/-- The tables of a series in the order of their headers, before those in `done`. -/
def tablesOf : List (List (String × Node)) → List Value → List Value
  | [], done => done
  | entries :: earlier, done => tablesOf earlier (.table (valuesOf entries) :: done)

end

end Parley.Toml
