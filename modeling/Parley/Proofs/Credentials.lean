import Mathlib
import Parley.Client.Connect
import Parley.Settings.RawEnvironment

namespace Parley

namespace RawEnvironment

theorem text?_cons (name n : String) (bytes : List UInt8) (rest : RawEnvironment) :
    text? ((n, bytes) :: rest) name =
      if name = n then (Text.decodeUtf8 bytes).toOption else text? rest name := by
  by_cases h : name = n
  · simp [text?, h]
  · have hne : (name == n) = false := beq_eq_false_iff_ne.mpr h
    simp [text?, h, hne, List.lookup_cons]

/-- A look-up finds the text of a variable, if it is one. -/
theorem lookup_texts (e : RawEnvironment) (name : String) :
    e.texts.lookup name = e.text? name := by
  induction e with
  | nil => rfl
  | cons v rest ih =>
    obtain ⟨n, bytes⟩ := v
    rw [text?_cons]
    by_cases h : name = n
    · subst h
      have hidden : ((texts rest).filter (fun v => v.1 ≠ name)).lookup name = none := by
        rw [List.lookup_eq_none_iff]
        intro v hv
        have hne : v.1 ≠ name := by simpa using (List.mem_filter.mp hv).2
        exact bne_iff_ne.mpr hne.symm
      cases hb : Text.decodeUtf8 bytes with
      | ok text => simp [texts, hb, Except.toOption]
      | error e =>
        simp only [texts, hb, hidden]
        rfl
    · have hrest := (Json.lookup_filter_ne h (texts rest)).trans ih
      have hne : (name == n) = false := beq_eq_false_iff_ne.mpr h
      cases hb : Text.decodeUtf8 bytes with
      | ok text => simp only [texts, hb, List.lookup_cons, hne, hrest, if_neg h]
      | error e => simp only [texts, hb, hrest, if_neg h]

end RawEnvironment

namespace ModelSettings

variable {s : ModelSettings} {e e' : RawEnvironment}

theorem connect_remote (h : s.provider ≠ .mock) (environment : Environment) :
    (s.connect environment).1 = .remote (s.remote environment) := by
  unfold connect
  cases hp : s.provider <;> first | rfl | exact absurd hp h

theorem key?_texts : s.key? e.texts =
    (e.text? s.apiKeyVariable).or (if s.provider.isLocal then some "local" else none) := by
  rw [key?, RawEnvironment.lookup_texts]

/-- A local client has an address and a key of its own, so nothing is left to standard ones. -/
theorem remote_local {address : String} (ha : s.provider.defaultBaseUrl = some address)
    (hl : s.provider.isLocal) : s.remote e.texts =
      ⟨s.baseUrl.getD address, (e.text? s.apiKeyVariable).getD "local", s.model⟩ := by
  have hplace : s.endpoint? = some (s.baseUrl.getD address) := by
    cases hb : s.baseUrl <;> simp [endpoint?, hb, ha]
  have hkey : s.key? e.texts = some ((e.text? s.apiKeyVariable).getD "local") := by
    rw [key?_texts, if_pos hl]
    cases e.text? s.apiKeyVariable <;> rfl
  simp [remote, hplace, hkey]

/-- Where no key is found under the name in the settings, one is looked for under the name that is
meant for one provider. -/
theorem key_remote (hl : s.provider.isLocal = false) : (s.remote e.texts).key =
    ((e.text? s.apiKeyVariable).or (e.text? "OPENAI_API_KEY")).getD "sk-placeholder" := by
  have hkey : s.key? e.texts = e.text? s.apiKeyVariable := by
    rw [key?_texts, hl]
    cases e.text? s.apiKeyVariable <;> rfl
  simp only [remote, hkey, standardKey, RawEnvironment.lookup_texts]
  cases e.text? s.apiKeyVariable <;> rfl

theorem baseUrl_remote : (s.remote e.texts).baseUrl =
    s.endpoint?.getD ((e.text? "OPENAI_BASE_URL").getD "https://api.openai.com/v1") := by
  simp only [remote, standardBaseUrl, RawEnvironment.lookup_texts]

/-- The client of a local provider goes to the address in the settings, else to that of its
provider, with the text of the variable that the settings name, else with a fixed key. Nothing else
in the environment matters, so two environments in which that variable has the same text, or none,
make the same client, whatever key they hold for another provider. -/
theorem local_client_sealed
    (hs : s.provider = .jan ∨ s.provider = .ollama ∨ s.provider = .lmstudio) :
    (∃ address, s.provider.defaultBaseUrl = some address ∧ ∀ e : RawEnvironment,
      (s.connect e.texts).1 = .remote
        ⟨s.baseUrl.getD address, (e.text? s.apiKeyVariable).getD "local", s.model⟩) ∧
    ∀ e e' : RawEnvironment, e.text? s.apiKeyVariable = e'.text? s.apiKeyVariable →
      (s.connect e.texts).1 = (s.connect e'.texts).1 := by
  obtain ⟨address, ha, hl, hm⟩ : ∃ address, s.provider.defaultBaseUrl = some address ∧
      s.provider.isLocal ∧ s.provider ≠ .mock := by
    rcases hs with h | h | h <;> rw [h] <;> exact ⟨_, rfl, rfl, nofun⟩
  have hclient : ∀ e : RawEnvironment, (s.connect e.texts).1 = .remote
      ⟨s.baseUrl.getD address, (e.text? s.apiKeyVariable).getD "local", s.model⟩ := by
    intro e
    rw [connect_remote hm, remote_local ha hl]
  refine ⟨⟨address, ha, hclient⟩, ?_⟩
  intro e e' h
  rw [hclient e, hclient e', h]

/-- The variable of the settings holds no text, and a key for another provider is there. -/
theorem local_client_sealed_no_text :
    let s : ModelSettings := ⟨.jan, "m", none, "MY_KEY", 60⟩
    let e : RawEnvironment := [("MY_KEY", [0xff]), ("OPENAI_API_KEY", [0x73, 0x6b])]
    s.provider = .jan ∧ e.text? "OPENAI_API_KEY" = some "sk" ∧
      (s.connect e.texts).1 = (s.connect (RawEnvironment.texts [])).1 ∧
      (s.connect e.texts).1 = .remote ⟨"http://localhost:1337/v1", "local", "m"⟩ := by
  intro s e
  have hs : s.provider = .jan ∨ s.provider = .ollama ∨ s.provider = .lmstudio := .inl rfl
  obtain ⟨⟨address, ha, hclient⟩, hsame⟩ := local_client_sealed hs
  have hplace : address = "http://localhost:1337/v1" := (Option.some.inj ha).symm
  exact ⟨rfl, by decide, hsame e [] (by decide), by rw [hclient e, hplace]; decide⟩

/-- A client of these providers goes to the same address whatever the variable for another provider
holds. Its key is the text of the variable that the settings name; where that has none, it is the
key for the other provider after all. So the key does not depend on that variable exactly if the
settings name a variable with a text, or the other one makes no difference either. -/
theorem hosted_client_sealed_iff (hs : s.provider = .deepseek ∨ s.provider = .custom)
    (hv : s.apiKeyVariable ≠ "OPENAI_API_KEY") (h : e.AgreeBut "OPENAI_API_KEY" e') :
    ∃ r r', (s.connect e.texts).1 = .remote r ∧ (s.connect e'.texts).1 = .remote r' ∧
      r.baseUrl = r'.baseUrl ∧
      r.key = ((e.text? s.apiKeyVariable).or (e.text? "OPENAI_API_KEY")).getD "sk-placeholder" ∧
      (r.key = r'.key ↔ (e.text? s.apiKeyVariable).isSome ∨
        (e.text? "OPENAI_API_KEY").getD "sk-placeholder" =
          (e'.text? "OPENAI_API_KEY").getD "sk-placeholder") := by
  obtain ⟨hl, hm⟩ : s.provider.isLocal = false ∧ s.provider ≠ .mock := by
    rcases hs with h | h <;> rw [h] <;> exact ⟨rfl, nofun⟩
  have hnamed : e.text? s.apiKeyVariable = e'.text? s.apiKeyVariable := by
    rw [RawEnvironment.text?, RawEnvironment.text?, h _ hv]
  have hplace : e.text? "OPENAI_BASE_URL" = e'.text? "OPENAI_BASE_URL" := by
    rw [RawEnvironment.text?, RawEnvironment.text?, h _ (by decide)]
  refine ⟨s.remote e.texts, s.remote e'.texts, connect_remote hm _, connect_remote hm _, ?_,
    key_remote hl, ?_⟩
  · rw [baseUrl_remote, baseUrl_remote, hplace]
  · rw [key_remote hl, key_remote hl, ← hnamed]
    cases e.text? s.apiKeyVariable <;> simp

/-- With the variable of the settings set, the key for another provider stays where it is. -/
theorem hosted_client_sealed_iff_set :
    let s : ModelSettings := ⟨.custom, "m", none, "MY_KEY", 60⟩
    let e : RawEnvironment := [("MY_KEY", [0x6b])]
    let e' : RawEnvironment := [("OPENAI_API_KEY", [0x73]), ("MY_KEY", [0x6b])]
    s.apiKeyVariable ≠ "OPENAI_API_KEY" ∧ e.AgreeBut "OPENAI_API_KEY" e' ∧
      ∃ r r', (s.connect e.texts).1 = .remote r ∧ (s.connect e'.texts).1 = .remote r' ∧
        r.baseUrl = r'.baseUrl ∧ r.key = "k" ∧ r.key = r'.key := by
  intro s e e'
  have hv : s.apiKeyVariable ≠ "OPENAI_API_KEY" := by decide
  have h : e.AgreeBut "OPENAI_API_KEY" e' := by
    intro other ho
    simp [e, e', List.lookup_cons, beq_eq_false_iff_ne.mpr ho]
  obtain ⟨r, r', hr, hr', hplace, hkey, hsame⟩ := hosted_client_sealed_iff (.inr rfl) hv h
  exact ⟨hv, h, r, r', hr, hr', hplace, hkey.trans (by decide), hsame.mpr (.inl (by decide))⟩

/-- With that variable not set, a server of one's own is shown the key for another provider. -/
theorem hosted_client_shown_other_key :
    let s : ModelSettings := ⟨.custom, "m", some "http://127.0.0.1:80/v1", "MY_KEY", 60⟩
    let e' : RawEnvironment := [("OPENAI_API_KEY", [0x73, 0x6b])]
    RawEnvironment.AgreeBut "OPENAI_API_KEY" [] e' ∧
      ∃ r r', (s.connect (RawEnvironment.texts [])).1 = .remote r ∧
        (s.connect e'.texts).1 = .remote r' ∧ r.key = "sk-placeholder" ∧ r'.key = "sk" ∧
        r'.authorization = "Bearer sk" := by
  intro s e'
  refine ⟨?_, _, _, rfl, rfl, by decide, by decide, by decide⟩
  intro other ho
  simp [e', List.lookup_cons, beq_eq_false_iff_ne.mpr ho]

end ModelSettings

end Parley
