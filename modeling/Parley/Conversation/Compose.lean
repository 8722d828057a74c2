import Parley.Conversation.Message

namespace Parley

structure Attachment where
  name : String
  content : String
  deriving DecidableEq, Repr

def Attachment.block (a : Attachment) : String :=
  s!"\n\n<context file=\"{a.name}\">\n{a.content}\n</context>"

def withBlocks (text : String) (attachments : List Attachment) : String :=
  attachments.foldl (fun text a => text ++ a.block) text

abbrev Composer := String → List Attachment → Message

/-- The typed text as it is if nothing is attached, else followed by one block per attachment. -/
def compose : Composer := fun input attachments =>
  ⟨.user, if attachments.isEmpty then input else withBlocks input attachments⟩

/-- To attach nothing is no special case. -/
theorem compose_eq (input : String) (attachments : List Attachment) :
    compose input attachments = ⟨.user, withBlocks input attachments⟩ := by
  cases attachments with
  | nil => rfl
  | cons a rest => rfl

end Parley
