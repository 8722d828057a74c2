import Parley.Number.Shortest
import Parley.Text.Quoted

namespace Parley

inductive Origin
  /-- A file under its path from the working directory. -/
  | file (path : String)
  | environment
  deriving DecidableEq

def Origin.text : Origin → String
  | file path => path
  | environment => "the environment"

inductive Scalar
  | nil
  | boolean (b : Bool)
  | integer (n : Int)
  | float (x : Binary64)
  | text (s : String)
  deriving DecidableEq

def Scalar.described : Scalar → String
  | nil => "unit value"
  | boolean b => s!"boolean `{b}`"
  | integer n => s!"integer `{n}`"
  | float x => "floating point `" ++ x.text .pointed ++ "`"
  | text s => s!"string {Text.quoted s}"

/-- A setting. One that was put together from several sources comes from none of them. -/
inductive Setting
  | scalar (origin : Option Origin) (value : Scalar)
  | table (origin : Option Origin) (entries : List (String × Setting))
  | array (origin : Option Origin) (items : List Setting)

namespace Setting

def nil : Setting := .scalar none .nil

def origin : Setting → Option Origin
  | .scalar o _ => o
  | .table o _ => o
  | .array o _ => o

end Setting

/-- The entries of a table in the order in which they were first stored. -/
abbrev Settings.Table := List (String × Setting)

namespace Settings.Table

def update (name : String) (change : Option Setting → Setting) : Table → Table
  | [] => [(name, change none)]
  | (n, old) :: rest =>
    if n = name then (n, change (some old)) :: rest else (n, old) :: update name change rest

theorem lookup_entry (name other : String) (value : Setting) (rest : Table) :
    List.lookup other ((name, value) :: rest) =
      if other = name then some value else List.lookup other rest := by
  by_cases h : other = name
  · simp [h]
  · have hb : (other == name) = false := by simpa using h
    simp [List.lookup_cons, hb, h]

@[simp] theorem lookup_update (name other : String) (change : Option Setting → Setting)
    (t : Table) :
    List.lookup other (update name change t) =
      if other = name then some (change (List.lookup name t)) else List.lookup other t := by
  induction t with
  | nil => simp [update, lookup_entry]
  | cons entry rest ih =>
    obtain ⟨n, old⟩ := entry
    by_cases hn : n = name
    · subst hn
      by_cases h : other = n <;> simp [update, lookup_entry, h]
    · by_cases ho : other = n
      · subst ho
        simp [update, hn]
      · simp [update, lookup_entry, hn, ho, ih, Ne.symm hn]

end Settings.Table

end Parley
