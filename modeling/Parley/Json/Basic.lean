import Parley.Number.Binary64

namespace Parley

inductive Json
  | null
  | bool (b : Bool)
  | int (n : Int)
  | float (x : Binary64)
  | str (s : String)
  | arr (items : List Json)
  | obj (members : List (String × Json))
  deriving Repr

namespace Json

def insertMember (name : String) (value : Json) : List (String × Json) → List (String × Json)
  | [] => [(name, value)]
  | (n, v) :: rest =>
    if name = n then (name, value) :: rest
    else if name < n then (name, value) :: (n, v) :: rest
    else (n, v) :: insertMember name value rest

@[simp] theorem lookup_insertMember (name other : String) (value : Json)
    (members : List (String × Json)) :
    List.lookup other (insertMember name value members) =
      if other = name then some value else List.lookup other members := by
  induction members with
  | nil => grind [insertMember]
  | cons member rest ih =>
    obtain ⟨n, v⟩ := member
    simp only [insertMember]
    grind

theorem lookup_filter_ne {α : Type} {name other : String} (h : other ≠ name)
    (members : List (String × α)) :
    List.lookup other (members.filter (fun member => member.1 ≠ name)) =
      List.lookup other members := by
  induction members with
  | nil => rfl
  | cons member rest ih =>
    obtain ⟨n, v⟩ := member
    grind

def object (members : List (String × Json)) : Json :=
  .obj (members.foldl (fun done (n, v) => insertMember n v done) [])

def get? (j : Json) (name : String) : Option Json :=
  match j with
  | .obj members => members.lookup name
  | _ => none

def str? : Json → Option String
  | .str s => some s
  | _ => none

end Json

end Parley
