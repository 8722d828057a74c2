import Parley.Conversation.Compose

namespace Parley.Fence

def opening : List Char := "\n\n<context file=\"".toList

def middle : List Char := "\">\n".toList

def closing : List Char := "\n</context>".toList

def between : List Char := closing ++ opening

/-- A content that ends its block, begins another and ends the name of that one. -/
def HoldsBlock (content : List Char) : Prop :=
  ∃ before behind, content = before ++ (between ++ behind) ∧ middle <:+: behind

/-- Attachments of which no name holds the mark behind names and no content ends its block: the last
one may tell the end of a block, but not of another name behind it. -/
inductive Delimited : List Attachment → Prop
  | none : Delimited []
  | last {a} : ¬ middle <:+: a.name.toList → ¬ HoldsBlock a.content.toList → Delimited [a]
  | more {a b rest} : ¬ middle <:+: a.name.toList → ¬ between <:+: a.content.toList →
    Delimited (b :: rest) → Delimited (a :: b :: rest)

def cut? (mark : List Char) : List Char → Option (List Char × List Char)
  | [] => none
  | c :: cs =>
    if mark.isPrefixOf (c :: cs) then some ([], (c :: cs).drop mark.length)
    else (cut? mark cs).map (fun (before, behind) => (c :: before, behind))

theorem eq_of_cut? {mark cs before behind : List Char} (h : cut? mark cs = some (before, behind)) :
    cs = before ++ (mark ++ behind) := by
  induction cs generalizing before behind with
  | nil => cases h
  | cons c cs ih =>
    unfold cut? at h
    split at h
    case isTrue hp =>
      obtain ⟨rest, hrest⟩ := List.isPrefixOf_iff_prefix.mp hp
      simp only [← hrest, Option.some.injEq, Prod.mk.injEq, List.drop_left] at h
      rw [← h.1, ← h.2, List.nil_append, hrest]
    case isFalse =>
      obtain ⟨found, hcut, he⟩ := Option.map_eq_some_iff.mp h
      obtain ⟨rfl, rfl⟩ := Prod.mk.inj he
      rw [List.cons_append, ← ih hcut]

/-- What is left behind a name and a content. -/
theorem length_more {cs name rest content more : List Char}
    (hname : cut? middle cs = some (name, rest))
    (hcontent : cut? between rest = some (content, more)) : more.length < cs.length := by
  have hmark : 0 < middle.length := by decide
  simp only [eq_of_cut? hname, eq_of_cut? hcontent, List.length_append]
  omega

/-- The attachments between the first opening and the last closing; `none` where no name ends. The
end of a block belongs to its content if no name ends behind it. -/
def read? (cs : List Char) : Option (List Attachment) :=
  match hname : cut? middle cs with
  | none => none
  | some (name, rest) =>
    match hcontent : cut? between rest with
    | none => some [⟨String.ofList name, String.ofList rest⟩]
    | some (content, more) =>
      have := length_more hname hcontent
      match read? more with
      | none => some [⟨String.ofList name, String.ofList rest⟩]
      | some others => some (⟨String.ofList name, String.ofList content⟩ :: others)
termination_by cs.length

end Parley.Fence
