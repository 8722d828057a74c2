import Parley.Settings.KeyPath
import Parley.Settings.Setting
import Parley.Text.Lowercase

namespace Parley

namespace Setting

def asTable : Setting → Option Origin × Settings.Table
  | .table o entries => (o, entries)
  | _ => (none, [])

def asArray : Setting → Option Origin × List Setting
  | .array o items => (o, items)
  | _ => (none, [])

mutual

/-- What a name stands for once a value is laid over what it stood for. -/
def layOver (old : Option Setting) : Setting → Setting
  | .table _ entries => layAll (old.getD (.table none [])) entries
  | value => value

/-- Lays entries over a setting, which becomes a table with the first of them. -/
def layAll (target : Setting) : List (String × Setting) → Setting
  | [] => target
  | (name, value) :: rest =>
    layAll (.table target.asTable.1
      (target.asTable.2.update (Text.lowercase name) (fun old => value.layOver old))) rest

end

def itemAt (size : Nat) (i : Int) : Nat := if i < 0 then (size + i).toNat else i.toNat

/-- Changes an item of an array, which is filled up to it with nothing. -/
def changeItem (i : Nat) (change : Setting → Setting) (items : List Setting) : List Setting :=
  (items ++ List.replicate (i + 1 - items.length) nil).modify i change

/-- What a place stands for once a value is stored at a path behind it. An item of an array is
replaced and never merged. -/
def storeAt (value : Setting) (old : Option Setting) : List Settings.Part → Setting
  | [] => value.layOver old
  | .name name :: path =>
    let target := (old.getD nil).asTable
    .table target.1 (target.2.update (Text.lowercase name) (fun old => storeAt value old path))
  | .index i :: path =>
    let target := (old.getD nil).asArray
    .array target.1 (changeItem (itemAt target.2.length i)
      (fun item => if path.isEmpty then value else storeAt value (some item) path) target.2)

end Setting

namespace Settings

def Table.lay (source t : Table) : Table :=
  source.foldl (fun t (key, value) =>
    (value.storeAt (some (.table none t)) (keyPath key)).asTable.2) t

def merge (sources : List Table) : Table := sources.foldl (fun t source => source.lay t) []

end Settings

end Parley
