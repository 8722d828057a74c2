import Mathlib
import Parley.Wire.Record

namespace Parley.Wire

namespace Field

variable {α : Type} {f : Field α} {members : List (String × Json)} {j : Json} {e : WireError}

theorem error?_eq_none : f.error? j = none ↔ ∃ a, f.decode j = .ok a := by
  unfold error?
  cases f.decode j <;> simp

/-- A check fails exactly where there is a bad member. -/
theorem check_eq (f : Field α) (members : List (String × Json)) :
    f.check members = match f.fault? members with
      | some e => .error e
      | none => .ok () := by
  unfold check fault? error?
  cases members.lookup f.name with
  | none => rfl
  | some j => cases hd : f.decode j <;> simp [hd, Except.map]

/-- What a field gets from an object without a bad member for it. -/
theorem get_sound (h : f.fault? members = none) :
    (members.lookup f.name = none ∧ f.get members = .error (.missingField f.name)) ∨
      ∃ x a, members.lookup f.name = some x ∧ f.decode x = .ok a ∧ f.get members = .ok a := by
  unfold fault? at h
  unfold get
  cases hm : members.lookup f.name with
  | none => exact .inl ⟨rfl, rfl⟩
  | some x =>
    rw [hm] at h
    obtain ⟨a, ha⟩ := error?_eq_none.mp h
    exact .inr ⟨x, a, rfl, ha, ha⟩

end Field

namespace Record

variable {r : Record} {members : List (String × Json)} {items : List Json} {e : WireError}

def blamed? (r : Record) (members : List (String × Json)) : Option WireError :=
  if r.first.name < r.second.name then (r.first.fault? members).or (r.second.fault? members)
  else (r.second.fault? members).or (r.first.fault? members)

theorem decode_object (r : Record) (members : List (String × Json)) :
    r.decode (.obj members) = match r.blamed? members with
      | some e => .error e
      | none => (r.first.get members).bind fun a =>
          (r.second.get members).bind fun b => .ok (r.make a b) := by
  rw [decode_eq]
  simp only [decodePair, blamed?, Field.check_eq]
  split <;> cases r.first.fault? members <;> cases r.second.fault? members <;> rfl

theorem mem_faults {fault : String × WireError} :
    fault ∈ r.faults members ↔
      (fault.1 = r.first.name ∧ r.first.fault? members = some fault.2) ∨
        (fault.1 = r.second.name ∧ r.second.fault? members = some fault.2) := by
  obtain ⟨name, e⟩ := fault
  simp only [faults, List.mem_append, Option.mem_toList, Option.map_eq_some_iff, Prod.mk.injEq]
  constructor
  · rintro (⟨_, h, rfl, rfl⟩ | ⟨_, h, rfl, rfl⟩)
    · exact .inl ⟨rfl, h⟩
    · exact .inr ⟨rfl, h⟩
  · rintro (⟨rfl, h⟩ | ⟨rfl, h⟩)
    · exact .inl ⟨e, h, rfl, rfl⟩
    · exact .inr ⟨e, h, rfl, rfl⟩

theorem blamed?_eq_none : r.blamed? members = none ↔ r.faults members = [] := by
  unfold blamed? faults
  split <;> cases r.first.fault? members <;> cases r.second.fault? members <;> simp

/-- Of two faults the one under the lesser name is the least, whichever of them there are. -/
theorem or_eq_some_iff_least {name name' : String} (hlt : name < name')
    (x y : Option WireError) (e : WireError) :
    x.or y = some e ↔ ∃ n, (n = name ∧ x = some e ∨ n = name' ∧ y = some e) ∧
      ∀ fault : String × WireError,
        fault.1 = name ∧ x = some fault.2 ∨ fault.1 = name' ∧ y = some fault.2 → n ≤ fault.1 := by
  cases x with
  | some a =>
    rw [Option.some_or]
    constructor
    · intro he
      refine ⟨name, .inl ⟨rfl, he⟩, ?_⟩
      rintro fault (⟨hn, _⟩ | ⟨hn, _⟩)
      · exact hn.ge
      · exact hn ▸ hlt.le
    · rintro ⟨n, ⟨_, he⟩ | ⟨rfl, _⟩, hleast⟩
      · exact he
      · exact absurd (hleast (name, a) (.inl ⟨rfl, rfl⟩)) hlt.not_ge
  | none =>
    rw [Option.none_or]
    constructor
    · intro he
      refine ⟨name', .inr ⟨rfl, he⟩, ?_⟩
      rintro fault (⟨_, hn⟩ | ⟨hn, _⟩)
      · cases hn
      · exact hn.ge
    · rintro ⟨n, ⟨_, he⟩ | ⟨_, he⟩, _⟩
      · cases he
      · exact he

theorem blamed?_eq_some :
    r.blamed? members = some e ↔
      ∃ name, (name, e) ∈ r.faults members ∧ ∀ other ∈ r.faults members, name ≤ other.1 := by
  simp only [mem_faults, blamed?]
  split
  case isTrue hlt => exact or_eq_some_iff_least hlt _ _ e
  case isFalse hge =>
    have hlt : r.second.name < r.first.name := lt_of_le_of_ne (not_lt.mp hge) r.names_ne.symm
    simp only [or_eq_some_iff_least hlt, or_comm]

/-- An object without bad members has a value exactly if no field is missing. -/
theorem decode_sound (h : r.faults members = []) :
    (∃ v, r.Accepts (.obj members) v ∧ r.missing members = [] ∧ r.decode (.obj members) = .ok v) ∨
      ∃ name, (r.missing members).head? = some name ∧
        r.decode (.obj members) = .error (.missingField name) := by
  rw [decode_object, blamed?_eq_none.mpr h]
  simp only [faults, List.append_eq_nil_iff, Option.toList_eq_nil_iff, Option.map_eq_none_iff] at h
  rcases Field.get_sound h.1 with ⟨hl, hg⟩ | ⟨x, a, hl, ha, hg⟩
  · exact .inr ⟨r.first.name, by simp [missing, names, hl], by rw [hg]; rfl⟩
  · rcases Field.get_sound h.2 with ⟨hl', hg'⟩ | ⟨y, b, hl', hb, hg'⟩
    · exact .inr ⟨r.second.name, by simp [missing, names, hl, hl'], by rw [hg, hg']; rfl⟩
    · exact .inl ⟨_, .object hl ha hl' hb, by simp [missing, names, hl, hl'], by rw [hg, hg']; rfl⟩

/-- Members that agree on the fields come to the same. -/
theorem decode_congr {others : List (String × Json)}
    (h : ∀ name ∈ r.names, members.lookup name = others.lookup name) :
    r.decode (.obj members) = r.decode (.obj others) := by
  have hf := h r.first.name (by simp [names])
  have hs := h r.second.name (by simp [names])
  simp only [decode_object, blamed?, Field.fault?, Field.get, hf, hs]

/-- A list whose items in the places of fields are good has a value exactly if it is a pair. -/
theorem decode_items (r : Record) (items : List Json) :
    (∃ e, (r.itemFaults items).head? = some e ∧ r.decode (.arr items) = .error e) ∨
      r.itemFaults items = [] ∧
        ((items.length < 2 ∧ r.decode (.arr items) =
            .error (.wrongLength items.length s!"struct {r.title} with 2 elements")) ∨
          (2 < items.length ∧ r.decode (.arr items) =
            .error (.wrongLength items.length "fewer elements in array")) ∨
          ∃ v, r.Accepts (.arr items) v ∧ r.decode (.arr items) = .ok v) := by
  rw [decode_eq]
  unfold itemFaults Field.error?
  match items with
  | [] => exact .inr ⟨rfl, .inl ⟨by simp, rfl⟩⟩
  | [x] =>
    cases hx : r.first.decode x with
    | error e => exact .inl ⟨e, by simp [hx], by simp [decodePair, hx, bind, Except.bind]⟩
    | ok a => exact .inr ⟨by simp [hx], .inl ⟨by simp, by simp [decodePair, hx, bind, Except.bind]⟩⟩
  | x :: y :: rest =>
    cases hx : r.first.decode x with
    | error e => exact .inl ⟨e, by simp [hx], by simp [decodePair, hx, bind, Except.bind]⟩
    | ok a =>
      cases hy : r.second.decode y with
      | error e => exact .inl ⟨e, by simp [hx, hy], by simp [decodePair, hx, hy, bind, Except.bind]⟩
      | ok b =>
        refine .inr ⟨by simp [hx, hy], .inr ?_⟩
        cases rest with
        | nil =>
          exact .inr ⟨r.make a b, .list hx hy, by simp [decodePair, hx, hy, bind, Except.bind]⟩
        | cons z rest =>
          exact .inl ⟨by simp, by simp [decodePair, hx, hy, bind, Except.bind]⟩

theorem accepts_of_decode {j : Json} {v : r.Value} (h : r.decode j = .ok v) : r.Accepts j v := by
  match j with
  | .obj members =>
    by_cases hf : r.faults members = []
    · rcases decode_sound hf with ⟨w, hw, _, hd⟩ | ⟨_, _, hd⟩
      · rw [h] at hd
        cases hd
        exact hw
      · rw [h] at hd
        cases hd
    · obtain ⟨e, he⟩ := Option.ne_none_iff_exists'.mp (mt blamed?_eq_none.mp hf)
      rw [decode_object, he] at h
      cases h
  | .arr items =>
    rcases r.decode_items items with ⟨_, _, hd⟩ | ⟨_, ⟨_, hd⟩ | ⟨_, hd⟩ | ⟨w, hw, hd⟩⟩ <;>
      rw [h] at hd <;> cases hd
    exact hw
  | .null | .bool _ | .int _ | .float _ | .str _ =>
    rw [decode_eq] at h
    cases h

theorem decode_of_accepts {j : Json} {v : r.Value} (h : r.Accepts j v) : r.decode j = .ok v := by
  cases h with
  | @object members x y a b hx ha hy hb =>
    have hf : r.first.fault? members = none := by
      rw [Field.fault?, hx]
      exact Field.error?_eq_none.mpr ⟨a, ha⟩
    have hs : r.second.fault? members = none := by
      rw [Field.fault?, hy]
      exact Field.error?_eq_none.mpr ⟨b, hb⟩
    have ha' : r.first.decode x = .ok a := ha
    have hb' : r.second.decode y = .ok b := hb
    simp [decode_object, blamed?, hf, hs, Field.get, hx, hy, ha', hb', Except.bind]
  | list ha hb =>
    rw [decode_eq]
    simp [decodePair, show r.first.decode _ = _ from ha, show r.second.decode _ = _ from hb, bind,
      Except.bind]

theorem blames_of_decode {j : Json} (h : r.decode j = .error e) : r.Blames j e := by
  match j with
  | .obj members =>
    cases hb : r.blamed? members with
    | some e' =>
      rw [decode_object, hb] at h
      obtain ⟨name, hm, hleast⟩ := blamed?_eq_some.mp hb
      cases h
      exact .member hm hleast
    | none =>
      have hf := blamed?_eq_none.mp hb
      rcases decode_sound hf with ⟨_, _, _, hd⟩ | ⟨name, hm, hd⟩ <;> rw [h] at hd <;> cases hd
      exact .missing hf hm
  | .arr items =>
    rcases r.decode_items items with
      ⟨_, hi, hd⟩ | ⟨hf, ⟨hl, hd⟩ | ⟨hl, hd⟩ | ⟨_, _, hd⟩⟩ <;> rw [h] at hd <;> cases hd
    · exact .item hi
    · exact .short hf hl
    · exact .long hf hl
  | .null | .bool _ | .int _ | .float _ | .str _ =>
    rw [decode_eq] at h
    cases h
    exact .kind (by simp) (by simp)

theorem decode_of_blames {j : Json} (h : r.Blames j e) : r.decode j = .error e := by
  cases h with
  | member hm hleast => rw [decode_object, blamed?_eq_some.mpr ⟨_, hm, hleast⟩]
  | missing hf hm =>
    rcases decode_sound hf with ⟨_, _, hn, _⟩ | ⟨name, hm', hd⟩
    · simp [hn] at hm
    · rw [hd, Option.some.inj (hm'.symm.trans hm)]
  | @item items e hi =>
    rcases r.decode_items items with ⟨e', hi', hd⟩ | ⟨hf, _⟩
    · rw [hd, Option.some.inj (hi'.symm.trans hi)]
    · simp [hf] at hi
  | @short items hf hl =>
    rcases r.decode_items items with ⟨_, hi, _⟩ | ⟨_, ⟨_, hd⟩ | ⟨hl', _⟩ | ⟨_, ⟨⟩, _⟩⟩
    · simp [hf] at hi
    · exact hd
    · omega
    · exact absurd hl (by simp)
  | @long items hf hl =>
    rcases r.decode_items items with ⟨_, hi, _⟩ | ⟨_, ⟨hl', _⟩ | ⟨_, hd⟩ | ⟨_, ⟨⟩, _⟩⟩
    · simp [hf] at hi
    · omega
    · exact hd
    · exact absurd hl (by simp)
  | @kind j ho ha =>
    match j with
    | .obj members => exact absurd rfl (ho members)
    | .arr items => exact absurd rfl (ha items)
    | .null | .bool _ | .int _ | .float _ | .str _ =>
      rw [decode_eq]
      rfl

/-- Reading a record follows its grammar: it succeeds exactly for objects with both fields and for
lists of both, to the same value; it blames the least bad member, then the first that is missing,
and in a list the first bad item, then the length; and members that are no fields do not matter. -/
theorem record_grammar (r : Record) :
    (∀ j v, r.decode j = .ok v ↔ r.Accepts j v) ∧
    (∀ j e, r.decode j = .error e ↔ r.Blames j e) ∧
    (∀ members x y, members.lookup r.first.name = some x → members.lookup r.second.name = some y →
      ∀ v, r.decode (.obj members) = .ok v ↔ r.decode (.arr [x, y]) = .ok v) ∧
    ∀ members name value, name ∉ r.names →
      r.decode (.obj (Json.insertMember name value members)) = r.decode (.obj members) ∧
      r.decode (.obj (members.filter (fun member => member.1 ≠ name))) =
        r.decode (.obj members) := by
  refine ⟨fun j v => ⟨accepts_of_decode, decode_of_accepts⟩,
    fun j e => ⟨blames_of_decode, decode_of_blames⟩, ?_, ?_⟩
  · intro members x y hx hy v
    constructor
    · intro h
      cases accepts_of_decode h with
      | object hx' ha hy' hb =>
        cases hx.symm.trans hx'
        cases hy.symm.trans hy'
        exact decode_of_accepts (.list ha hb)
    · intro h
      cases accepts_of_decode h with
      | list ha hb => exact decode_of_accepts (.object hx ha hy hb)
  · intro members name value hn
    have hne : ∀ other ∈ r.names, other ≠ name := by
      rintro other ho rfl
      exact hn ho
    constructor
    · exact decode_congr fun other ho => by rw [Json.lookup_insertMember, if_neg (hne other ho)]
    · exact decode_congr fun other ho => Json.lookup_filter_ne (hne other ho) members

end Record

end Parley.Wire
