import Parley.Wire.Types

namespace Parley.Wire

abbrev Spelling (α : Type) := Json → α → Prop

/-- A pair as an object with a member for each part, in whatever company, or as the list of its
parts. -/
inductive PairOf (f g : String) (F : Spelling α) (G : Spelling β) (make : α → β → γ) : Spelling γ
  | object {members x y a b} : members.lookup f = some x → F x a → members.lookup g = some y →
    G y b → PairOf f g F G make (.obj members) (make a b)
  | list {x y a b} : F x a → G y b → PairOf f g F G make (.arr [x, y]) (make a b)

def Field.Takes (f : Field α) : Spelling α := fun j a => f.decode j = .ok a

def Field.error? (f : Field α) (j : Json) : Option WireError :=
  match f.decode j with
  | .ok _ => none
  | .error e => some e

def Field.fault? (f : Field α) (members : List (String × Json)) : Option WireError :=
  (members.lookup f.name).bind f.error?

/-- The records. Each has two fields, of which the second is a text. -/
inductive Record
  | message
  | attachment
  | languageModel
  deriving DecidableEq

namespace Record

abbrev First : Record → Type
  | message => Role
  | attachment => String
  | languageModel => Provider

abbrev Value : Record → Type
  | message => Message
  | attachment => Attachment
  | languageModel => LanguageModel

def title : Record → String
  | message => "Message"
  | attachment => "Attachment"
  | languageModel => "LanguageModel"

def first : (r : Record) → Field r.First
  | message => ⟨"role", Role.ofJson⟩
  | attachment => ⟨"name", decodeString⟩
  | languageModel => ⟨"provider", Provider.ofJson⟩

def second : Record → Field String
  | message | attachment => ⟨"content", decodeString⟩
  | languageModel => ⟨"model_name", decodeString⟩

def make : (r : Record) → r.First → String → r.Value
  | message => Message.mk
  | attachment => Attachment.mk
  | languageModel => LanguageModel.mk

def encode : (r : Record) → r.Value → Json
  | message => Message.toJson
  | attachment => Attachment.toJson
  | languageModel => LanguageModel.toJson

def decode : (r : Record) → Decoder r.Value
  | message => Message.ofJson
  | attachment => Attachment.ofJson
  | languageModel => LanguageModel.ofJson

theorem decode_eq (r : Record) : r.decode = decodePair r.title r.first r.second r.make := by
  cases r <;> rfl

def names (r : Record) : List String := [r.first.name, r.second.name]

theorem names_ne (r : Record) : r.first.name ≠ r.second.name := by
  cases r <;> decide

/-- The values that JSON values stand for: both fields are there and take what is there for them. -/
def Accepts (r : Record) : Spelling r.Value :=
  PairOf r.first.name r.second.name r.first.Takes r.second.Takes r.make

def faults (r : Record) (members : List (String × Json)) : List (String × WireError) :=
  ((r.first.fault? members).map (r.first.name, ·)).toList ++
    ((r.second.fault? members).map (r.second.name, ·)).toList

def missing (r : Record) (members : List (String × Json)) : List String :=
  r.names.filter (fun name => (members.lookup name).isNone)

def itemFaults (r : Record) (items : List Json) : List WireError :=
  (items[0]?.bind r.first.error?).toList ++ (items[1]?.bind r.second.error?).toList

/-- Which error a JSON value comes to. -/
inductive Blames (r : Record) : Json → WireError → Prop
  /-- A bad member is blamed before one that is missing, the least name before others. -/
  | member {members name e} : (name, e) ∈ r.faults members →
    (∀ other ∈ r.faults members, name ≤ other.1) → Blames r (.obj members) e
  | missing {members name} : r.faults members = [] → (r.missing members).head? = some name →
    Blames r (.obj members) (.missingField name)
  /-- A bad item is blamed before the number of items. -/
  | item {items e} : (r.itemFaults items).head? = some e → Blames r (.arr items) e
  | short {items} : r.itemFaults items = [] → items.length < 2 →
    Blames r (.arr items) (.wrongLength items.length s!"struct {r.title} with 2 elements")
  | long {items} : r.itemFaults items = [] → 2 < items.length →
    Blames r (.arr items) (.wrongLength items.length "fewer elements in array")
  | kind {j} : (∀ members, j ≠ .obj members) → (∀ items, j ≠ .arr items) →
    Blames r j (.wrongType j s!"struct {r.title}")

end Record

end Parley.Wire
