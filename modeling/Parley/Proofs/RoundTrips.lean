import Mathlib
import Parley.Wire.Kind
import Parley.Proofs.Records

namespace Parley

namespace Json

/-- Members with different names go to their places in either order. -/
theorem insertMember_comm {name name' : String} (h : name ≠ name') (value value' : Json)
    (members : List (String × Json)) :
    insertMember name value (insertMember name' value' members) =
      insertMember name' value' (insertMember name value members) := by
  induction members with
  | nil => grind [insertMember]
  | cons member rest ih =>
    obtain ⟨n, v⟩ := member
    grind [insertMember]

theorem object_perm {members members' : List (String × Json)} (h : members.Perm members')
    (hn : (members.map Prod.fst).Nodup) : object members = object members' := by
  unfold object
  congr 1
  refine h.foldl_eq' (fun x hx y hy z => ?_) []
  by_cases hxy : x = y
  · rw [hxy]
  · exact insertMember_comm (fun he => hxy (List.inj_on_of_nodup_map hn hx hy he.symm)) _ _ z

theorem lookup_object_pair {name name' : String} (h : name ≠ name') (value value' : Json) :
    ∃ members, object [(name, value), (name', value')] = .obj members ∧
      members.lookup name = some value ∧ members.lookup name' = some value' :=
  ⟨_, rfl, by simp [h], by simp⟩

end Json

namespace Wire

section
variable {α : Type} {name : α → String} {values : List α} {j : Json} {v : α}

theorem named_eq_ok (hinj : Function.Injective name) (hall : ∀ v, v ∈ values) {s : String} :
    named name values s = .ok v ↔ name v = s := by
  unfold named
  constructor
  · intro h
    cases hf : values.find? (fun v => name v = s) with
    | none => simp [hf] at h
    | some w =>
      simp only [hf, Except.ok.injEq] at h
      subst h
      simpa using List.find?_some hf
  · rintro rfl
    cases hf : values.find? (fun w => name w = name v) with
    | none => simpa using List.find?_eq_none.mp hf v (hall v)
    | some w =>
      have hw : name w = name v := by simpa using List.find?_some hf
      rw [hinj hw]

theorem decodeName_eq_ok (hinj : Function.Injective name) (hall : ∀ v, v ∈ values) :
    decodeName name values j = .ok v ↔ NameOf name j v := by
  constructor
  · intro h
    match j with
    | .str s =>
      obtain rfl := (named_eq_ok hinj hall).mp h
      exact .text v
    | .obj [(n, content)] =>
      cases hn : named name values n with
      | error e => simp [decodeName, hn, bind, Except.bind] at h
      | ok w =>
        obtain rfl := (named_eq_ok hinj hall).mp hn
        cases content <;> simp [decodeName, hn, bind, Except.bind] at h
        subst h
        exact .member w
    | .obj [] | .obj (_ :: _ :: _) => cases h
    | .null | .bool _ | .int _ | .float _ | .arr _ => cases h
  · rintro (_ | _)
    · exact (named_eq_ok hinj hall).mpr rfl
    · simp [decodeName, (named_eq_ok hinj hall).mpr (rfl : name v = name v), bind, Except.bind]

end

theorem decodeString_eq_ok {j : Json} {s : String} : decodeString j = .ok s ↔ TextOf id j s := by
  cases j <;> simp [decodeString, TextOf]

theorem role_eq_ok {j : Json} {v : Role} : Role.ofJson j = .ok v ↔ NameOf Role.name j v :=
  decodeName_eq_ok (by intro v w; cases v <;> cases w <;> decide) (by intro v; cases v <;> decide)

theorem provider_eq_ok {j : Json} {v : Provider} :
    Provider.ofJson j = .ok v ↔ NameOf Provider.tag j v :=
  decodeName_eq_ok (by intro v w; cases v <;> cases w <;> decide) (by intro v; cases v <;> decide)

theorem PairOf.congr {α β γ : Type} {f g : String} {F F' : Spelling α} {G G' : Spelling β}
    {make : α → β → γ} {j : Json} {v : γ} (hF : ∀ j a, F j a ↔ F' j a)
    (hG : ∀ j b, G j b ↔ G' j b) :
    PairOf f g F G make j v ↔ PairOf f g F' G' make j v := by
  constructor
  · rintro (⟨hx, ha, hy, hb⟩ | ⟨ha, hb⟩)
    · exact .object hx ((hF _ _).mp ha) hy ((hG _ _).mp hb)
    · exact .list ((hF _ _).mp ha) ((hG _ _).mp hb)
  · rintro (⟨hx, ha, hy, hb⟩ | ⟨ha, hb⟩)
    · exact .object hx ((hF _ _).mpr ha) hy ((hG _ _).mpr hb)
    · exact .list ((hF _ _).mpr ha) ((hG _ _).mpr hb)

theorem Record.first_takes (r : Record) (j : Json) (a : r.First) :
    r.first.Takes j a ↔ r.firstSpelling j a := by
  cases r
  · exact role_eq_ok
  · exact decodeString_eq_ok
  · exact provider_eq_ok

theorem Record.second_takes (r : Record) (j : Json) (b : String) :
    r.second.Takes j b ↔ TextOf id j b := by
  cases r <;> exact decodeString_eq_ok

/-- What is written for a record spells it. -/
theorem Record.spells_encode (r : Record) (v : r.Value) :
    PairOf r.first.name r.second.name r.firstSpelling (TextOf id) r.make (r.encode v) v := by
  obtain ⟨a, b, x, rfl, hx, he⟩ : ∃ a b x, v = r.make a b ∧ r.firstSpelling x a ∧
      r.encode v = Json.object [(r.first.name, x), (r.second.name, .str b)] := by
    cases r
    · exact ⟨v.role, v.content, _, rfl, .text v.role, rfl⟩
    · exact ⟨v.name, v.content, _, rfl, rfl, rfl⟩
    · exact ⟨v.provider, v.name, _, rfl, .text v.provider, rfl⟩
  obtain ⟨members, ho, hf, hs⟩ := Json.lookup_object_pair r.names_ne x (.str b)
  rw [he, ho]
  exact .object hf hx hs rfl

namespace Kind

variable {k : Kind} {j : Json} {v : k.Value}

theorem decode_eq_ok : k.decode j = .ok v ↔ k.Spells j v := by
  cases k with
  | role => exact role_eq_ok
  | provider => exact provider_eq_ok
  | key =>
    obtain ⟨text⟩ := v
    cases j <;> simp [decode, Spells, ConversationKey.ofJson, decodeString, TextOf, Except.map]
  | record r =>
    have hread : r.decode j = .ok v ↔ r.Accepts j v :=
      ⟨Record.accepts_of_decode, Record.decode_of_accepts⟩
    exact hread.trans (PairOf.congr r.first_takes r.second_takes)

theorem spells_encode (k : Kind) (v : k.Value) : k.Spells (k.encode v) v := by
  cases k with
  | role => exact .text v
  | provider => exact .text v
  | key => rfl
  | record r => exact r.spells_encode v

theorem decode_encode (k : Kind) (v : k.Value) : k.decode (k.encode v) = .ok v :=
  decode_eq_ok.mpr (k.spells_encode v)

theorem encode_injective (k : Kind) : Function.Injective k.encode := by
  intro v w h
  have hv := k.decode_encode v
  rw [h, k.decode_encode w] at hv
  exact (Except.ok.inj hv).symm

theorem rewrite_eq_ok {c : Json} :
    k.rewrite j = .ok c ↔ ∃ v, k.decode j = .ok v ∧ k.encode v = c := by
  unfold rewrite
  cases k.decode j <;> simp [Except.map]

/-- Reading takes back what writing made, so different values are written differently. A JSON value
is read exactly if it spells the value, in whatever way; it is then rewritten to one form, which
stands for the same value, stays as it is when it is rewritten, and is common to all spellings of
that value and to no others. The order of the members of an object does not matter. -/
theorem json_round_trip (k : Kind) :
    (∀ v, k.decode (k.encode v) = .ok v) ∧ Function.Injective k.encode ∧
    (∀ j v, k.decode j = .ok v ↔ k.Spells j v) ∧
    (∀ j c, k.rewrite j = .ok c → k.decode c = k.decode j ∧ k.rewrite c = .ok c ∧
      ∀ j', k.rewrite j' = .ok c ↔ k.decode j' = k.decode j) ∧
    ∀ members members', members.Perm members' → (members.map Prod.fst).Nodup →
      k.decode (Json.object members) = k.decode (Json.object members') := by
  refine ⟨k.decode_encode, k.encode_injective, fun j v => decode_eq_ok, ?_, ?_⟩
  · intro j c h
    obtain ⟨v, hv, rfl⟩ := rewrite_eq_ok.mp h
    refine ⟨(k.decode_encode v).trans hv.symm, rewrite_eq_ok.mpr ⟨v, k.decode_encode v, rfl⟩, ?_⟩
    intro j'
    constructor
    · intro h'
      obtain ⟨w, hw, he⟩ := rewrite_eq_ok.mp h'
      rw [hw, hv, k.encode_injective he]
    · intro h'
      exact rewrite_eq_ok.mpr ⟨v, h'.trans hv, rfl⟩
  · intro members members' hp hn
    rw [Json.object_perm hp hn]

/-- The parts of a record are spelled each in its own way. -/
example : (Kind.record .message).decode (.arr [.obj [("System", .null)], .str "hi"]) =
    .ok ⟨.system, "hi"⟩ := rfl

end Kind

end Wire

end Parley
