import Mathlib
import Parley.Client.Tally

namespace Parley

namespace TokenUsage

theorem add_eq_increments (u : TokenUsage) (prompt completion : UInt64) :
    u.add prompt completion = (increments prompt completion).foldl increase u := rfl

/-- Two increments commute, also on the same counter. -/
instance increase_rightComm : RightCommutative increase where
  right_comm u i j := by
    cases i <;> cases j <;>
      simp [increase, addPrompt, addCompletion, addTotal, add_right_comm]

theorem foldl_add_eq_increments (adds : List (UInt64 × UInt64)) (u : TokenUsage) :
    adds.foldl (fun u a => u.add a.1 a.2) u =
      (adds.flatMap (fun a => increments a.1 a.2)).foldl increase u := by
  simp only [add_eq_increments, List.foldl_flatMap]

/-- Counters that hold the sums of counts, as far as words go. -/
structure Sums (u : TokenUsage) (counts : List Chat.Counts) : Prop where
  prompt : u.prompt.toNat = (counts.map (fun c => c.prompt.toNat)).sum % 2 ^ 64
  completion : u.completion.toNat = (counts.map (fun c => c.completion.toNat)).sum % 2 ^ 64
  total : u.total.toNat =
    (counts.map (fun c => c.prompt.toNat + c.completion.toNat)).sum % 2 ^ 64

theorem sums_zero : Sums zero [] := ⟨rfl, rfl, rfl⟩

/-- The counts of one answer are too small for their sum to wrap. -/
theorem counts_lt (c : Chat.Counts) :
    c.prompt.toUInt64.toNat + c.completion.toUInt64.toNat < 2 ^ 64 := by
  have hp := c.prompt.toNat_lt
  have hc := c.completion.toNat_lt
  simp only [UInt32.toNat_toUInt64]
  omega

@[simp] theorem prompt_addCounts (u : TokenUsage) (c : Chat.Counts) :
    (u.addCounts c).prompt = u.prompt + c.prompt.toUInt64 := rfl

@[simp] theorem completion_addCounts (u : TokenUsage) (c : Chat.Counts) :
    (u.addCounts c).completion = u.completion + c.completion.toUInt64 := rfl

@[simp] theorem total_addCounts (u : TokenUsage) (c : Chat.Counts) :
    (u.addCounts c).total = u.total + (c.prompt.toUInt64 + c.completion.toUInt64) := rfl

theorem Sums.addCounts {u : TokenUsage} {counts : List Chat.Counts} (h : u.Sums counts)
    (c : Chat.Counts) : (u.addCounts c).Sums (counts ++ [c]) where
  prompt := by simp [h.prompt]
  completion := by simp [h.completion]
  total := by simp [h.total]

theorem Sums.foldl {u : TokenUsage} {counts : List Chat.Counts} (h : u.Sums counts)
    (more : List Chat.Counts) : (more.foldl TokenUsage.addCounts u).Sums (counts ++ more) := by
  induction more generalizing u counts with
  | nil => simpa using h
  | cons c rest ih => simpa using ih (h.addCounts c)

/-- Sums of both counts are what the first two counters add up to. -/
theorem Sums.balanced {u : TokenUsage} {counts : List Chat.Counts} (h : u.Sums counts) :
    u.total = u.prompt + u.completion := by
  apply UInt64.toNat_inj.mp
  rw [UInt64.toNat_add, h.prompt, h.completion, h.total, List.sum_map_add]
  omega

end TokenUsage

namespace Remote

variable {r : Remote} {b : Chat.Builders} {attempt : Attempt}

theorem received?_eq_some {answer : Chat.Answer} :
    attempt.received? b r = some answer ↔
      ∃ body, b.body r.model attempt.messages = .ok body ∧ attempt.create body = .ok answer := by
  unfold Attempt.received?
  cases b.body r.model attempt.messages with
  | error e => simp
  | ok body => cases hc : attempt.create body <;> simp [hc, Except.toOption]

theorem count_eq (usage : TokenUsage) (answer : Chat.Answer) :
    count usage answer = answer.counts.toList.foldl TokenUsage.addCounts usage := by
  unfold count
  cases answer.counts <;> rfl

theorem complete_received {answer : Chat.Answer} (usage : TokenUsage)
    (h : attempt.received? b r = some answer) :
    r.complete b attempt.create usage attempt.messages =
      (reply answer, answer.counts.toList.foldl TokenUsage.addCounts usage) := by
  obtain ⟨body, hb, hc⟩ := received?_eq_some.mp h
  rw [complete_answered usage hb hc, count_eq]

/-- A call without an answer leaves the counters alone. -/
theorem usage_failed (usage : TokenUsage) (h : attempt.received? b r = none) :
    (r.complete b attempt.create usage attempt.messages).2 = usage := by
  cases hb : b.body r.model attempt.messages with
  | error e => rw [complete_refused _ _ hb]
  | ok body =>
    cases hc : attempt.create body with
    | error text => rw [complete_failed usage hb hc]
    | ok answer =>
      rw [received?_eq_some.mpr ⟨body, hb, hc⟩] at h
      cases h

/-- Calls in a row count what the answers tell that they receive. -/
theorem usageAfter_eq (r : Remote) (b : Chat.Builders) (usage : TokenUsage)
    (attempts : List Attempt) : r.usageAfter b usage attempts =
      ((attempts.filterMap (·.received? b r)).filterMap Chat.Answer.counts).foldl
        TokenUsage.addCounts usage := by
  induction attempts generalizing usage with
  | nil => rfl
  | cons attempt rest ih =>
    have hstep : r.usageAfter b usage (attempt :: rest) =
        r.usageAfter b (r.complete b attempt.create usage attempt.messages).2 rest := rfl
    rw [hstep, ih]
    cases hr : attempt.received? b r with
    | none => rw [usage_failed usage hr, List.filterMap_cons_none hr]
    | some answer =>
      rw [complete_received usage hr, List.filterMap_cons_some hr, List.filterMap_cons]
      cases answer.counts <;> rfl

/-- The counters of a client are the sums of the counts in the answers that its calls received,
whatever else was in these answers; the third is always the sum of the other two; a call without an
answer changes nothing, and an answer that is rejected because it has no content counts like any
other; what is added for one answer does not wrap; and neither the order of answers nor that of
single increments matters. -/
theorem tokens_add_up (r : Remote) (b : Chat.Builders) (attempts : List Attempt) :
    (r.usageAfter b .zero attempts).Sums
      ((attempts.filterMap (·.received? b r)).filterMap Chat.Answer.counts) ∧
    (r.usageAfter b .zero attempts).total =
      (r.usageAfter b .zero attempts).prompt + (r.usageAfter b .zero attempts).completion ∧
    (∀ (usage : TokenUsage) (attempt : Attempt), attempt.received? b r = none →
      (r.complete b attempt.create usage attempt.messages).2 = usage) ∧
    (∀ (usage : TokenUsage) (attempt : Attempt) (answer : Chat.Answer),
      attempt.received? b r = some answer → reply answer = .error .emptyResponse →
      r.complete b attempt.create usage attempt.messages =
        (.error .emptyResponse, answer.counts.toList.foldl TokenUsage.addCounts usage)) ∧
    (∀ c : Chat.Counts, c.prompt.toUInt64.toNat + c.completion.toUInt64.toNat < 2 ^ 64) ∧
    ∀ (usage : TokenUsage) (adds : List (UInt64 × UInt64)) (steps : List Increment),
      steps.Perm (adds.flatMap (fun a => TokenUsage.increments a.1 a.2)) →
        steps.foldl TokenUsage.increase usage = adds.foldl (fun u a => u.add a.1 a.2) usage := by
  have hsums : (r.usageAfter b .zero attempts).Sums
      ((attempts.filterMap (·.received? b r)).filterMap Chat.Answer.counts) := by
    rw [usageAfter_eq]
    simpa using TokenUsage.sums_zero.foldl
      ((attempts.filterMap (·.received? b r)).filterMap Chat.Answer.counts)
  refine ⟨hsums, hsums.balanced, fun usage _ h => usage_failed usage h, ?_,
    TokenUsage.counts_lt, ?_⟩
  · intro usage attempt answer h hr
    rw [complete_received usage h, hr]
  · intro usage adds steps hp
    rw [TokenUsage.foldl_add_eq_increments]
    exact hp.foldl_eq usage

end Remote

end Parley
