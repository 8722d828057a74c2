import Parley.Wire.Record

namespace Parley.Wire

def TextOf (text : α → String) : Spelling α := fun j v => j = .str (text v)

inductive NameOf (name : α → String) : Spelling α
  | text (v : α) : NameOf name (.str (name v)) v
  | member (v : α) : NameOf name (.obj [(name v, .null)]) v

def Record.firstSpelling : (r : Record) → Spelling r.First
  | message => NameOf Role.name
  | attachment => TextOf id
  | languageModel => NameOf Provider.tag

inductive Kind
  | role
  | provider
  | key
  | record (r : Record)
  deriving DecidableEq

namespace Kind

abbrev Value : Kind → Type
  | role => Role
  | provider => Provider
  | key => ConversationKey
  | record r => r.Value

def encode : (k : Kind) → k.Value → Json
  | role => Role.toJson
  | provider => Provider.toJson
  | key => ConversationKey.toJson
  | record r => r.encode

def decode : (k : Kind) → Decoder k.Value
  | role => Role.ofJson
  | provider => Provider.ofJson
  | key => ConversationKey.ofJson
  | record r => r.decode

/-- The spellings of the values of a type. The parts of a record may be spelled in any way, each
for itself. -/
def Spells : (k : Kind) → Spelling k.Value
  | role => NameOf Role.name
  | provider => NameOf Provider.tag
  | key => TextOf ConversationKey.text
  | record r => PairOf r.first.name r.second.name r.firstSpelling (TextOf id) r.make

/-- What a JSON value is written as again, once it was read. -/
def rewrite (k : Kind) (j : Json) : Except WireError Json := (k.decode j).map k.encode

end Kind

end Parley.Wire
