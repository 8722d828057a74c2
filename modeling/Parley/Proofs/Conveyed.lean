import Mathlib
import Parley.Client.Builders

namespace Parley

namespace Chat

theorem taggedRole?_roleTag (role : Role) : taggedRole? (roleTag role) = some role := by
  cases role <;> decide

theorem readMessage_of_says {j : Json} {role : Role} {content : String}
    (h : Says j (roleTag role) content) : readMessage j = some ⟨role, content⟩ := by
  simp [readMessage, member, h.1, h.2, Json.str?, taggedRole?_roleTag]

theorem says_messageJson (m : Message) : Says (messageJson m) (roleTag m.role) m.content := by
  simp [Says, messageJson, Json.object, Json.get?]

namespace Builders

variable {b : Builders}

theorem checked_ok {built : Except String Json} {j : Json} (h : built = .ok j) :
    checked built = .ok j := by
  rw [h]
  rfl

theorem entries_cons {m : Message} {rest : List Message} {j : Json} {items : List Json}
    (hm : b.entry m = .ok j) (hrest : b.entries rest = .ok items) :
    b.entries (m :: rest) = .ok (j :: items) := by
  simp only [Builders.entries] at hrest
  simp [Builders.entries, List.mapM_cons, hm, hrest, bind, Except.bind, pure, Except.pure]

theorem Faithful.entry (hb : b.Faithful) (m : Message) :
    ∃ j, b.entry m = .ok j ∧ readMessage j = some m := by
  obtain ⟨role, content⟩ := m
  cases role with
  | system =>
    obtain ⟨j, hj, hsays⟩ := hb.systemMessage content
    exact ⟨j, checked_ok hj, readMessage_of_says hsays⟩
  | user =>
    obtain ⟨j, hj, hsays⟩ := hb.userMessage content
    exact ⟨j, checked_ok hj, readMessage_of_says hsays⟩
  | assistant =>
    obtain ⟨j, hj, hsays⟩ := hb.assistantMessage content
    exact ⟨j, checked_ok hj, readMessage_of_says hsays⟩

/-- No message is refused, and the entries tell the messages one by one. -/
theorem Faithful.entries (hb : b.Faithful) (messages : List Message) :
    ∃ items, b.entries messages = .ok items ∧ items.length = messages.length ∧
      items.mapM readMessage = some messages := by
  induction messages with
  | nil => exact ⟨[], rfl, rfl, rfl⟩
  | cons m rest ih =>
    obtain ⟨j, hj, hread⟩ := hb.entry m
    obtain ⟨items, hitems, hlength, hreads⟩ := ih
    exact ⟨j :: items, entries_cons hj hitems, by simp [hlength], by simp [hread, hreads]⟩

theorem Faithful.body (hb : b.Faithful) (model : String) (messages : List Message) :
    ∃ body, b.body model messages = .ok body ∧ Carries body model messages := by
  obtain ⟨items, hitems, _, hreads⟩ := hb.entries messages
  obtain ⟨body, hbody, hmodel, hmessages⟩ := hb.request model items
  refine ⟨body, ?_, hmodel, ?_⟩
  · simp only [Builders.body, hitems, bind, Except.bind]
    exact checked_ok hbody
  · simp [readConversation, member, hmessages, items?, hreads]

/-- What a server reads decides which conversation it was. -/
theorem Faithful.body_injective (hb : b.Faithful) {model model' : String}
    {messages messages' : List Message} (h : b.body model messages = b.body model' messages') :
    model = model' ∧ messages = messages' := by
  obtain ⟨body, hbody, hmodel, hread⟩ := hb.body model messages
  obtain ⟨body', hbody', hmodel', hread'⟩ := hb.body model' messages'
  obtain rfl : body = body' := Except.ok.inj (hbody.symm.trans (h.trans hbody'))
  rw [hmodel] at hmodel'
  rw [hread] at hread'
  exact ⟨Json.str.inj (Option.some.inj hmodel'), Option.some.inj hread'⟩

theorem plain_faithful : plain.Faithful where
  systemMessage content := ⟨_, rfl, says_messageJson ⟨.system, content⟩⟩
  userMessage content := ⟨_, rfl, says_messageJson ⟨.user, content⟩⟩
  assistantMessage content := ⟨_, rfl, says_messageJson ⟨.assistant, content⟩⟩
  request model items := ⟨_, rfl, by simp [Json.object, Json.get?], by simp [Json.object, Json.get?]⟩

end Builders

end Chat

namespace Remote

variable {b : Chat.Builders} {answer : Chat.Answer}

theorem reply_eq_ok {c : String} :
    reply answer = .ok c ↔ answer.contents.head? = some (some c) := by
  unfold reply
  rcases answer.contents.head? with _ | _ | _ <;> simp

theorem reply_eq_empty :
    reply answer = .error .emptyResponse ↔ ∀ c, answer.contents.head? ≠ some (some c) := by
  unfold reply
  rcases answer.contents.head? with _ | _ | _ <;> simp

/-- Whatever library makes the parts of a request, as long as it takes any text and writes down what
it is given: no conversation is refused, a request tells the server one entry for each message, with
its role and its content and in order, and different conversations make different requests. The
library is asked for an answer to that request. What it answers decides the reply by its first
choice alone: the content of that, which may be empty, and an empty response where it has none. A
failure of the library is one of the call. -/
theorem conversation_conveyed (hb : b.Faithful) (r : Remote) (messages : List Message) :
    (∃ items, b.entries messages = .ok items ∧ items.length = messages.length ∧
      items.mapM Chat.readMessage = some messages) ∧
    (∀ model messages', b.body r.model messages = b.body model messages' →
      messages = messages') ∧
    ∃ body, b.body r.model messages = .ok body ∧ Chat.Carries body r.model messages ∧
      ∀ (create : Chat.Create) (usage : TokenUsage),
        (∀ answer, create body = .ok answer →
          (∀ c, (r.complete b create usage messages).1 = .ok c ↔
            answer.contents.head? = some (some c)) ∧
          ((r.complete b create usage messages).1 = .error .emptyResponse ↔
            ∀ c, answer.contents.head? ≠ some (some c))) ∧
        ∀ text, create body = .error text →
          (r.complete b create usage messages).1 = .error (.request text) := by
  obtain ⟨body, hbody, hcarries⟩ := hb.body r.model messages
  refine ⟨hb.entries messages, fun _ _ h => (hb.body_injective h).2, body, hbody, hcarries, ?_⟩
  intro create usage
  constructor
  · intro answer hc
    rw [complete_answered usage hbody hc]
    exact ⟨fun c => reply_eq_ok, reply_eq_empty⟩
  · intro text hc
    rw [complete_failed usage hbody hc]

/-- Messages without content and twice the same message are told as they are, to a library that
answers this conversation and no other. A first choice with an empty content is a reply, and one
without content is none, whatever the second one holds. -/
theorem conversation_conveyed_repeated :
    let messages : List Message := [⟨.system, ""⟩, ⟨.user, "a"⟩, ⟨.user, "a"⟩]
    let r : Remote := ⟨"http://127.0.0.1:80/v1", "k", "m"⟩
    let answers (contents : List (Option String)) : Chat.Create := fun j =>
      if Chat.readConversation j = some messages then .ok ⟨contents, some ⟨3, 1⟩⟩
      else .error "unexpected conversation"
    Chat.Builders.plain.Faithful ∧
      (∃ items, Chat.Builders.plain.entries messages = .ok items ∧ items.length = 3 ∧
        items.mapM Chat.readMessage = some messages) ∧
      ∀ usage, (r.complete .plain (answers [some "", some "b"]) usage messages).1 = .ok "" ∧
        (r.complete .plain (answers [none, some "b"]) usage messages).1 =
          .error .emptyResponse := by
  intro messages r answers
  obtain ⟨hitems, -, body, -, ⟨-, hread⟩, hreply⟩ :=
    conversation_conveyed Chat.Builders.plain_faithful r messages
  have hanswers (contents : List (Option String)) :
      answers contents body = .ok ⟨contents, some ⟨3, 1⟩⟩ := if_pos hread
  refine ⟨Chat.Builders.plain_faithful, hitems, fun usage => ⟨?_, ?_⟩⟩
  · exact ((hreply _ usage).1 _ (hanswers _)).1 "" |>.mpr rfl
  · exact ((hreply _ usage).1 _ (hanswers _)).2.mpr (by simp)

end Remote

end Parley
