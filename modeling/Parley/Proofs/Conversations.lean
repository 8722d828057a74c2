import Parley.Conversation.Operation

namespace Parley

open Operation (listAnswers)

/-- Steps that leave the conversation of a key without messages: nothing was appended to it at all,
or nothing since its last message was removed, or since it was cleared. -/
inductive Operation.Vacates (key : ConversationKey) : List (ConversationKey × Operation) → Prop
  | unwritten {steps} (quiet : ∀ op ∈ Operation.on key steps, op.appends = false) :
      Vacates key steps
  | emptied {before since} (last : (Store.empty.after before).size key = 1)
      (quiet : ∀ op ∈ Operation.on key since, op.appends = false) :
      Vacates key (before ++ (key, .removeLast) :: since)
  | cleared {before since} (quiet : ∀ op ∈ Operation.on key since, op.appends = false) :
      Vacates key (before ++ (key, .clear) :: since)

namespace Operation

variable {key k : ConversationKey} {steps : List (ConversationKey × Operation)}

theorem on_cons_self (op : Operation) : on key ((key, op) :: steps) = op :: on key steps := by
  simp [on]

theorem on_cons_of_ne (op : Operation) (h : k ≠ key) : on key ((k, op) :: steps) = on key steps := by
  simp [on, h]

theorem onList_nil {op : Operation} (h : op.appends = false) : (op.onList []).1 = [] := by
  cases op with
  | append => cases h
  | _ => rfl

end Operation

namespace Store

variable {key k : ConversationKey} {s t : Store} {steps : List (ConversationKey × Operation)}

/-- An operation does to its conversation what it does to a list. -/
theorem history_perform (s : Store) (key : ConversationKey) (op : Operation) :
    (s.perform key op).1.history key = (op.onList (s.history key)).1 := by
  cases op <;> simp [perform, Operation.onList]

theorem answer_perform (s : Store) (key : ConversationKey) (op : Operation) :
    (s.perform key op).2 = (op.onList (s.history key)).2 := by
  cases op <;> rfl

/-- It does nothing to any other one. -/
theorem history_perform_of_ne (op : Operation) (h : k ≠ key) :
    (s.perform k op).1.history key = s.history key := by
  cases op <;> simp [perform, Ne.symm h]

/-- Whoever asks about one conversation hears what a list of its messages answers. -/
theorem about_answers (s : Store) (key : ConversationKey)
    (steps : List (ConversationKey × Operation)) :
    Operation.Answer.about key (s.answers steps) =
      listAnswers (s.history key) (Operation.on key steps) := by
  induction steps generalizing s with
  | nil => rfl
  | cons step rest ih =>
    obtain ⟨k, op⟩ := step
    have hrest := ih (s.perform k op).1
    by_cases h : k = key
    · subst h
      rw [history_perform] at hrest
      rw [Operation.on_cons_self, listAnswers, ← hrest, ← answer_perform]
      simp [answers, Operation.Answer.about]
    · rw [history_perform_of_ne op h] at hrest
      rw [Operation.on_cons_of_ne op h, ← hrest]
      simp [answers, Operation.Answer.about, h]

theorem after_append (s : Store) (first second : List (ConversationKey × Operation)) :
    s.after (first ++ second) = (s.after first).after second := by
  induction first generalizing s with
  | nil => rfl
  | cons step rest ih => exact ih _

/-- A conversation without messages stays so until something is appended. -/
theorem history_after_quiet (h : s.history key = [])
    (quiet : ∀ op ∈ Operation.on key steps, op.appends = false) :
    (s.after steps).history key = [] := by
  induction steps generalizing s with
  | nil => exact h
  | cons step rest ih =>
    obtain ⟨k, op⟩ := step
    by_cases hk : k = key
    · subst hk
      rw [Operation.on_cons_self] at quiet
      refine ih ?_ (fun o ho => quiet o (List.mem_cons_of_mem _ ho))
      rw [history_perform, h]
      exact Operation.onList_nil (quiet op List.mem_cons_self)
    · rw [Operation.on_cons_of_ne op hk] at quiet
      exact ih ((history_perform_of_ne op hk).trans h) quiet

theorem history_vacated (h : Operation.Vacates key steps) :
    (empty.after steps).history key = [] := by
  cases h with
  | unwritten quiet => exact history_after_quiet rfl quiet
  | @emptied before since last quiet =>
    rw [after_append]
    refine history_after_quiet (s := ((empty.after before).perform key .removeLast).1) ?_ quiet
    obtain ⟨message, hm⟩ := List.length_eq_one_iff.mp last
    rw [history_perform, hm]
    rfl
  | @cleared before since quiet =>
    rw [after_append]
    refine history_after_quiet (s := ((empty.after before).perform key .clear).1) ?_ quiet
    rw [history_perform]
    rfl

/-- A store is a family of independent lists. Operations on one conversation are answered as by a
plain list that starts empty and sees no others; a conversation is empty, of size zero and without
messages all at once; and however a conversation came to be without messages, all that is done from
then on is answered alike. -/
theorem answers_eq_lists :
    (∀ steps key, Operation.Answer.about key (empty.answers steps) =
      listAnswers [] (Operation.on key steps)) ∧
    (∀ steps key, ((empty.after steps).isEmpty key = true ↔ (empty.after steps).size key = 0) ∧
      ((empty.after steps).size key = 0 ↔ (empty.after steps).history key = [])) ∧
    ∀ steps steps' key key', Operation.Vacates key steps → Operation.Vacates key' steps' →
      ∀ later later', Operation.on key later = Operation.on key' later' →
        Operation.Answer.about key ((empty.after steps).answers later) =
          Operation.Answer.about key' ((empty.after steps').answers later') := by
  refine ⟨fun steps key => about_answers empty key steps, ?_, ?_⟩
  · intro steps key
    have hsize : (empty.after steps).size key = 0 ↔ (empty.after steps).history key = [] :=
      List.length_eq_zero_iff
    exact ⟨by rw [hsize, isEmpty, List.isEmpty_iff], hsize⟩
  · intro steps steps' key key' hv hv' later later' hon
    rw [about_answers, about_answers, history_vacated hv, history_vacated hv', hon]

/-- A conversation that was emptied, and one that was never written: the store keeps them
differently, and answers alike. -/
theorem answers_eq_lists_emptied :
    ∃ (steps later later' : List (ConversationKey × Operation)) (a b : ConversationKey),
      (empty.after steps).conversations = [(a, [])] ∧
      Operation.Answer.about a ((empty.after steps).answers later) =
        Operation.Answer.about b ((empty.after steps).answers later') := by
  let a : ConversationKey := ⟨"a"⟩
  let b : ConversationKey := ⟨"b"⟩
  let steps : List (ConversationKey × Operation) := [(a, .append ⟨.user, "one"⟩), (a, .removeLast)]
  have hlast : (empty.after [(a, .append ⟨.user, "one"⟩)]).size a = 1 := rfl
  have ha : Operation.Vacates a steps :=
    @Operation.Vacates.emptied a [(a, .append ⟨.user, "one"⟩)] [] hlast (by decide)
  have hb : Operation.Vacates b steps := .unwritten (by decide)
  obtain ⟨_, _, hsame⟩ := answers_eq_lists
  exact ⟨steps, [(a, .removeLast), (a, .isEmpty)], [(b, .removeLast), (b, .isEmpty)], a, b, rfl,
    hsame steps steps a b ha hb _ _ rfl⟩

end Store

end Parley
