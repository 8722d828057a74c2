import Parley.Conversation.Message

namespace Parley

structure Store where
  conversations : List (ConversationKey × List Message)
  deriving Repr

namespace Store

def empty : Store := ⟨[]⟩

def history (s : Store) (key : ConversationKey) : List Message :=
  (s.conversations.lookup key).getD []

def size (s : Store) (key : ConversationKey) : Nat := (s.history key).length

def isEmpty (s : Store) (key : ConversationKey) : Bool := (s.history key).isEmpty

def put (key : ConversationKey) (messages : List Message) :
    List (ConversationKey × List Message) → List (ConversationKey × List Message)
  | [] => [(key, messages)]
  | (k, ms) :: rest => if key = k then (k, messages) :: rest else (k, ms) :: put key messages rest

def append (s : Store) (key : ConversationKey) (message : Message) : Store :=
  ⟨put key (s.history key ++ [message]) s.conversations⟩

def last? (s : Store) (key : ConversationKey) : Option Message := (s.history key).getLast?

def removeLast (s : Store) (key : ConversationKey) : Store :=
  match s.last? key with
  | some _ => ⟨put key (s.history key).dropLast s.conversations⟩
  | none => s

def clear (s : Store) (key : ConversationKey) : Store :=
  ⟨s.conversations.filter (fun c => c.1 ≠ key)⟩

theorem lookup_put (key k : ConversationKey) (ms : List Message)
    (cs : List (ConversationKey × List Message)) :
    (put key ms cs).lookup k = if k = key then some ms else cs.lookup k := by
  induction cs with
  | nil =>
    by_cases h : k = key
    · simp [put, h]
    · simp [put, List.lookup_cons, h, beq_eq_false_iff_ne.mpr h]
  | cons c cs ih =>
    obtain ⟨n, old⟩ := c
    by_cases hn : key = n
    · subst hn
      by_cases h : k = key
      · simp [put, h]
      · simp [put, List.lookup_cons, h, beq_eq_false_iff_ne.mpr h]
    · by_cases h : k = n
      · subst h
        simp [put, hn, Ne.symm hn]
      · simp [put, hn, List.lookup_cons, beq_eq_false_iff_ne.mpr h, ih]

theorem lookup_clear (key k : ConversationKey) (cs : List (ConversationKey × List Message)) :
    (cs.filter (fun c => c.1 ≠ key)).lookup k = if k = key then none else cs.lookup k := by
  induction cs with
  | nil => simp
  | cons c cs ih =>
    obtain ⟨n, old⟩ := c
    by_cases hn : n = key
    · rw [List.filter_cons_of_neg (by simp [hn]), ih]
      by_cases h : k = key
      · simp [h]
      · simp [h, List.lookup_cons, beq_eq_false_iff_ne.mpr (fun e => h (e.trans hn))]
    · rw [List.filter_cons_of_pos (by simp [hn])]
      by_cases h : k = n
      · subst h
        simp [hn]
      · simp only [List.lookup_cons, beq_eq_false_iff_ne.mpr h, ih]

@[simp] theorem history_empty (k : ConversationKey) : empty.history k = [] := rfl

@[simp] theorem history_append (s : Store) (key k : ConversationKey) (m : Message) :
    (s.append key m).history k = if k = key then s.history key ++ [m] else s.history k := by
  by_cases h : k = key <;> simp [append, history, lookup_put, h]

@[simp] theorem history_removeLast (s : Store) (key k : ConversationKey) :
    (s.removeLast key).history k = if k = key then (s.history key).dropLast else s.history k := by
  unfold removeLast last?
  split
  · by_cases h : k = key <;> simp [history, lookup_put, h]
  · next hn =>
    have : s.history key = [] := List.getLast?_eq_none_iff.mp hn
    by_cases h : k = key <;> simp [this, h]

@[simp] theorem history_clear (s : Store) (key k : ConversationKey) :
    (s.clear key).history k = if k = key then [] else s.history k := by
  simp only [clear, history, lookup_clear]
  by_cases h : k = key <;> simp [h]

end Store

end Parley
