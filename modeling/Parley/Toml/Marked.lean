import Parley.Toml.Moment
import Parley.Toml.Value

namespace Parley.Toml

def momentKey : String := "$__toml_private_datetime"

mutual

/-- A value with moments in place of the tables that stand for them; `none` if one of these tables
names no moment. -/
def Value.unmark? : Value → Option Value
  | .array items => (unmarkItems? items).map .array
  | .table entries => unmarkTable? entries
  | value => some value

def unmarkItems? : List Value → Option (List Value)
  | [] => some []
  | item :: rest => do some ((← item.unmark?) :: (← unmarkItems? rest))

def unmarkTable? : List (String × Value) → Option Value
  | [] => some (.table [])
  | (name, value) :: rest =>
    if name = momentKey then
      match value with
      | .string s => (moment? s).map .moment
      | _ => none
    else do some (.table ((name, ← value.unmark?) :: (← unmarkEntries? rest)))

def unmarkEntries? : List (String × Value) → Option (List (String × Value))
  | [] => some []
  | (name, value) :: rest => do some ((name, ← value.unmark?) :: (← unmarkEntries? rest))

end

end Parley.Toml
