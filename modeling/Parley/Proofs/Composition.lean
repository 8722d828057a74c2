import Mathlib.Logic.Function.Defs
import Parley.Conversation.Compose

namespace Parley

variable {text input : String} {xs ys : List Attachment}

theorem withBlocks_append :
    withBlocks text (xs ++ ys) = withBlocks (withBlocks text xs) ys :=
  List.foldl_append

/-- What the blocks are does not depend on the text in front of them. -/
theorem withBlocks_eq : withBlocks text xs = text ++ String.join (xs.map Attachment.block) := by
  induction xs generalizing text with
  | nil => simp [withBlocks]
  | cons a rest ih =>
    have hstep : withBlocks text (a :: rest) = withBlocks (text ++ a.block) rest := rfl
    rw [hstep, ih, List.map_cons, String.join_cons, String.append_assoc]

theorem withBlocks_injective : Function.Injective (fun text => withBlocks text xs) := by
  intro text other h
  apply (String.append_left_inj (String.join (xs.map Attachment.block))).mp
  rw [← withBlocks_eq, ← withBlocks_eq]
  exact h

/-- Attaching in two steps is attaching at once, and to attach nothing is no special case. The message
is the user's own. It begins with the text as it was typed, a whole block for each attachment
follows, in their order, and nothing else is in it. So with the same attachments different texts
make different messages. -/
theorem composed_stepwise (input : String) (xs ys : List Attachment) :
    compose input (xs ++ ys) = compose (compose input xs).content ys ∧
    compose input xs = ⟨.user, withBlocks input xs⟩ ∧
    input.toList <+: (compose input xs).content.toList ∧
    compose input xs = ⟨.user, input ++ String.join (xs.map (fun a =>
      "\n\n<context file=\"" ++ a.name ++ "\">\n" ++ a.content ++ "\n</context>"))⟩ ∧
    Function.Injective (fun input => compose input xs) := by
  refine ⟨?_, compose_eq input xs, ?_, ?_, ?_⟩
  · simp only [compose_eq, withBlocks_append]
  · rw [compose_eq, withBlocks_eq, String.toList_append]
    exact List.prefix_append _ _
  · rw [compose_eq, withBlocks_eq]
    rfl
  · intro text other h
    simp only [compose_eq, Message.mk.injEq, true_and] at h
    exact withBlocks_injective h

/-- With other attachments they need not: a text may end with a block of its own. -/
example : compose "see\n\n<context file=\"a\">\nx\n</context>" [] = compose "see" [⟨"a", "x"⟩] := by
  decide

end Parley
