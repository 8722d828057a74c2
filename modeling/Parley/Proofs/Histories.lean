import Parley.Proofs.Effects

namespace Parley

variable {setup : Setup} {store : Store} {key : ConversationKey}

theorem Store.history_apply_of_ne {change : Write} (h : change.key ≠ key) :
    (store.apply change).history key = store.history key := by
  cases change <;> simp_all [Store.apply, Write.key, Ne.symm]

theorem Store.history_foldl_append (store : Store) (k : ConversationKey) (messages : List Message) :
    (messages.foldl (fun store m => store.append k m) store).history key =
      if key = k then store.history k ++ messages else store.history key := by
  induction messages generalizing store with
  | nil => by_cases h : key = k <;> simp [h]
  | cons m rest ih =>
    rw [List.foldl_cons, ih]
    by_cases h : key = k <;> simp [h]

theorem Setup.history_opened (request : Request) :
    (setup.opened store request).history key =
      if key = request.key then store.history request.key ++ setup.opening store request
      else store.history key :=
  Store.history_foldl_append store request.key _

theorem Setup.last?_opened (request : Request) :
    (setup.opened store request).last? request.key =
      some (setup.compose request.input request.attachments) := by
  simp [Store.last?, history_opened, opening]

/-- A user message that stands last is taken back, and nothing else is touched. -/
theorem Pending.history_undo {p : Pending} {before : List Message}
    (h : store.history p.key = before ++ [p.userMessage]) :
    (p.undo store).history key = if key = p.key then before else store.history key := by
  have hl : store.last? p.key = some p.userMessage := by simp [Store.last?, h]
  rw [undo, if_pos hl, Store.history_removeLast, h, List.dropLast_concat]

theorem Pending.history_undo_of_ne {p : Pending} (h : p.key ≠ key) :
    (p.undo store).history key = store.history key := by
  unfold undo
  split
  · rw [Store.history_removeLast, if_neg (Ne.symm h)]
  · rfl

end Parley
