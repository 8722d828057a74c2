import Mathlib
import Parley.Settings.Variable
import Parley.Proofs.Layers
import Parley.Proofs.NumberTexts

namespace Parley.Settings

/-- Tables of which the second has a value of its own for a field and is like the first elsewhere.
Anything but a table in the place of the section gives way to one that holds the field alone. -/
structure Sets (i : FieldName) (value : Setting) (t t' : Table) : Prop where
  elsewhere : ∀ name, name ≠ i.owner.key → t'.lookup name = t.lookup name
  inside : ∃ o entries, t'.lookup i.owner.key = some (.table o entries) ∧ ∀ name,
    entries.lookup name = if name = i.field.name then some value else (t.inside i.owner).lookup name

variable {i : FieldName} {value : Setting} {t t' : Table}

theorem storeAt_name (value : Setting) (old : Option Setting) (name : String) (path : List Part) :
    value.storeAt old (.name name :: path) =
      .table (old.getD .nil).asTable.1 ((old.getD .nil).asTable.2.update (Text.lowercase name)
        (fun old => value.storeAt old path)) := rfl

theorem store_update {key text : String} {path : List Part} (h : keyPath key = .name text :: path)
    (value : Setting) (t : Table) :
    t.store (key, value) =
      t.update (Text.lowercase text) (fun old => value.storeAt old path) := by
  rw [Table.store, h]
  rfl

theorem lowercase_owner (i : FieldName) : Text.lowercase i.owner.key = i.owner.key := by
  cases i <;> decide

theorem lowercase_field (i : FieldName) : Text.lowercase i.field.name = i.field.name := by
  cases i <;> decide

/-- A single value for a field is stored in its section, whatever that was before. -/
theorem sets_store {key : String} (h : keyPath key = [.name i.owner.key, .name i.field.name])
    (o : Option Origin) (v : Scalar) (t : Table) :
    Sets i (.scalar o v) t (t.store (key, .scalar o v)) := by
  rw [store_update h, lowercase_owner]
  constructor
  · intro name hn
    rw [Table.lookup_update, if_neg hn]
  · refine ⟨_, _, by rw [Table.lookup_update, if_pos rfl, storeAt_name], fun name => ?_⟩
    rw [Table.lookup_update, lowercase_field]
    rfl

/-- So is one in a table that is laid over the section. -/
theorem sets_section (i : FieldName) (o o' : Option Origin) (v : Scalar) (t : Table) :
    Sets i (.scalar o v) t (t.store (i.owner.key, .table o' [(i.field.name, .scalar o v)])) := by
  have hpath : keyPath i.owner.key = [.name i.owner.key] := by
    cases i <;> decide
  rw [store_update hpath, lowercase_owner]
  constructor
  · intro name hn
    rw [Table.lookup_update, if_neg hn]
  · refine ⟨_, _, by rw [Table.lookup_update, if_pos rfl]; rfl, fun name => ?_⟩
    rw [Table.lookup_update, lowercase_field, Table.inside]
    cases t.lookup i.owner.key <;> rfl

theorem Sets.elsewhere_update (h : Sets i value t t') (text : String)
    (change : Option Setting → Setting) {name : String} (hn : name ≠ i.owner.key) :
    List.lookup name (t'.update text change) = List.lookup name (t.update text change) := by
  simp only [Table.lookup_update]
  split
  case isTrue he => rw [h.elsewhere _ (he ▸ hn)]
  case isFalse => exact h.elsewhere name hn

/-- What is stored past the field leaves the difference as it is. -/
theorem Sets.store (h : Sets i value t t') {key : String} (hp : i.PassedBy (keyPath key))
    (v : Setting) : Sets i value (t.store (key, v)) (t'.store (key, v)) := by
  obtain ⟨o, entries, hentries, hinside⟩ := h.inside
  generalize hk : keyPath key = path at hp
  cases hp with
  | @outside text path hn =>
    have hne : i.owner.key ≠ Text.lowercase text := fun e => hn e.symm
    simp only [store_update hk]
    refine ⟨fun name hname => h.elsewhere_update _ _ hname, o, entries, ?_, fun name => ?_⟩
    · rw [Table.lookup_update, if_neg hne, hentries]
    · rw [hinside, inside_update, if_neg hne]
  | @beside text inner path hn =>
    simp only [store_update hk]
    refine ⟨fun name hname => h.elsewhere_update _ _ hname, ?_⟩
    by_cases ho : i.owner.key = Text.lowercase text
    · -- both sections get the entry, under a name that is not that of the field
      have hne : i.field.name ≠ Text.lowercase inner := fun e => hn e.symm
      refine ⟨_, _, by rw [Table.lookup_update, if_pos ho, storeAt_name], fun name => ?_⟩
      rw [← ho, hentries, inside_update, if_pos rfl, storeAt_name]
      simp only [Option.getD_some, asTable_table, Table.lookup_update, hinside, if_neg hne.symm]
      by_cases hname : name = i.field.name
      · simp [hname, hne]
      · simp [hname, Table.inside]
    · refine ⟨o, entries, ?_, fun name => ?_⟩
      · rw [Table.lookup_update, if_neg ho, hentries]
      · rw [hinside, inside_update, if_neg ho]

theorem Sets.lay (h : Sets i value t t') {source : Table}
    (hp : ∀ entry ∈ source, i.PassedBy (keyPath entry.1)) :
    Sets i value (source.lay t) (source.lay t') := by
  induction source generalizing t t' with
  | nil => exact h
  | cons entry rest ih =>
    exact ih (h.store (hp entry (.head _)) entry.2) (fun e he => hp e (.tail _ he))

/-- A field is also read from the entries of its section alone. Where that is an array there are
none, and the field is left to its default. -/
theorem resolve_inside {t : Table} {j : FieldName} {y : j.Value}
    (h : (t.sectionAt j.owner).field j.owner j.field = .ok y) :
    ∃ y, j.resolve ((t.inside j.owner).lookup j.field.name) = .ok y := by
  unfold Table.sectionAt at h
  unfold Table.inside
  cases hv : t.lookup j.owner.key with
  | none => exact ⟨_, rfl⟩
  | some v =>
    cases v with
    | table o entries =>
      rw [hv, Option.getD_some, field_resolve] at h
      exact ⟨y, h⟩
    | scalar | array => exact ⟨_, rfl⟩

theorem field_name_ne {i j : FieldName} (h : j ≠ i) (ho : j.owner = i.owner) :
    j.field.name ≠ i.field.name := by
  revert h ho
  cases i <;> cases j <;> decide

/-- Where the table without the value has settings, so has the table with it, and these have what
the value converts to. -/
theorem Sets.ofTable (h : Sets i value t t') {before : Settings}
    (hb : Settings.ofTable t = .ok before) {x : i.Value} (hx : i.convert value = .ok x) :
    ∃ settings, Settings.ofTable t' = .ok settings ∧ i.get settings = x := by
  rw [ofTable_eq_ok_iff_fields] at hb
  obtain ⟨o, entries, hentries, hinside⟩ := h.inside
  have hset : (t'.sectionAt i.owner).field i.owner i.field = .ok x := by
    rw [Table.sectionAt, hentries, Option.getD_some, field_resolve, hinside, if_pos rfl]
    exact hx
  have hother (j : FieldName) (hj : j ≠ i) :
      ∃ y, (t'.sectionAt j.owner).field j.owner j.field = .ok y := by
    by_cases ho : j.owner = i.owner
    · obtain ⟨y, hy⟩ := resolve_inside (hb j)
      refine ⟨y, ?_⟩
      rw [Table.sectionAt, ho, hentries, Option.getD_some, ← ho, field_resolve, hinside,
        if_neg (field_name_ne hj ho), ← ho, hy]
    · have hkey : j.owner.key ≠ i.owner.key := fun e => ho (SectionName.key_injective e)
      refine ⟨j.get before, ?_⟩
      rw [← hb j, Table.sectionAt, h.elsewhere _ hkey, Table.sectionAt]
  have hfield (j : FieldName) : ∃ y, (t'.sectionAt j.owner).field j.owner j.field = .ok y := by
    by_cases hj : j = i
    · subst hj
      exact ⟨x, hset⟩
    · exact hother j hj
  choose values hvalues using hfield
  refine ⟨FieldName.settings values, ofTable_eq_ok_iff_fields.mpr fun j => ?_, ?_⟩
  · rw [hvalues, FieldName.get_settings]
  · rw [FieldName.get_settings]
    exact Except.ok.inj ((hvalues i).symm.trans hset)

theorem lay_append (first second t : Table) :
    Table.lay (first ++ second) t = Table.lay second (Table.lay first t) :=
  List.foldl_append

/-- Settings are loaded from the files that can be read with the environment laid over them. -/
theorem loadWith_eq_ok {read : FileReader} {files : Files} {stored : Table}
    {chosen : Option String} {settings : Settings} :
    loadWith read files stored chosen = .ok settings ↔
      ∃ tables, (paths files chosen).mapM (read files) = .ok tables ∧
        ofTable (stored.lay (merge tables)) = .ok settings := by
  simp only [loadWith, sources, bind_eq_ok]
  constructor
  · rintro ⟨_, ⟨tables, ht, ⟨⟩⟩, h⟩
    refine ⟨tables, ht, ?_⟩
    simpa [merge] using h
  · rintro ⟨tables, ht, h⟩
    refine ⟨_, ⟨tables, ht, rfl⟩, ?_⟩
    simpa [merge] using h

theorem convert_text {i : FieldName} (hi : i ∈ FieldName.textual) (o : Option Origin) {v : Scalar}
    {text : String} (hv : v.text? = some text) :
    ∃ x, i.convert (.scalar o v) = .ok x ∧ i.textOf? x = some text := by
  have htext (key : String) : Setting.toText key (.scalar o v) = .ok text := by
    simp [Setting.toText, hv]
  have hoption (key : String) :
      Setting.toOption Setting.toText key (.scalar o v) = .ok (some text) := by
    cases v with
    | nil => cases hv
    | _ => simp [Setting.toOption, htext, Except.map]
  cases i with
  | provider | timeout => simp [FieldName.textual] at hi
  | name | systemPromptFile | baseUrl => exact ⟨some text, hoption _, rfl⟩
  | systemPrompt | model | apiKeyVariable => exact ⟨text, htext _, rfl⟩

theorem variableValue_text (text : String) : ∃ t, (variableValue text).text? = some t := by
  unfold variableValue
  split
  · exact ⟨_, rfl⟩
  · exact ⟨_, rfl⟩
  · split
    · exact ⟨_, rfl⟩
    · split <;> exact ⟨_, rfl⟩

theorem head?_lowercase {text : String} {c : Char} {cs : List Char} (h : text.toList = c :: cs)
    (hc : c.toNat < 0x80) : (Text.lowercase text).toList.head? = some c.toLower := by
  have hsigma : c.toNat ≠ 0x3a3 := by omega
  simp [Text.lowercase, h, Text.lowerFrom, Text.lowerChar, hsigma, hc]

theorem lowercase_signed {text : String} {negative : Bool} {c : Char} {cs : List Char}
    (h : text.toList = Numeral.signed negative (c :: cs)) (hc : c.isDigit) :
    Text.lowercase text ≠ "true" ∧ Text.lowercase text ≠ "false" := by
  obtain ⟨first, hfirst, hkind⟩ : ∃ first, (Text.lowercase text).toList.head? = some first ∧
      (first = '-' ∨ first.isDigit) := by
    cases negative with
    | true => exact ⟨'-', head?_lowercase h (by decide), .inl rfl⟩
    | false =>
      obtain ⟨d, hd, rfl⟩ := Numeral.exists_digitChar hc
      refine ⟨d.digitChar, ?_, .inr hc⟩
      rw [head?_lowercase h (by rw [Nat.toNat_digitChar_of_lt_ten hd]; omega)]
      interval_cases d <;> rfl
  constructor <;>
  · intro he
    rw [he] at hfirst
    obtain rfl := Option.some.inj hfirst
    exact absurd hkind (by decide)

theorem lowercase_text {x : Binary64} (hx : x.Representable) :
    Text.lowercase (x.text .plain) ≠ "true" ∧ Text.lowercase (x.text .plain) ≠ "false" := by
  cases x with
  | nan => decide +kernel
  | infinite negative => cases negative <;> decide +kernel
  | finite negative m q =>
    obtain ⟨d, ds, hd, htext⟩ := Binary64.exists_toList_text hx
    exact lowercase_signed htext hd

theorem lowercase_toString (n : Int) :
    Text.lowercase (toString n) ≠ "true" ∧ Text.lowercase (toString n) ≠ "false" := by
  obtain ⟨negative, k, -, htext⟩ := Numeral.exists_toList_toString n
  obtain ⟨c, cs, hcs⟩ := List.exists_cons_of_ne_nil (Nat.toDigits_ne_nil (n := k) (b := 10))
  rw [hcs] at htext
  exact lowercase_signed htext (Numeral.isDigit_toDigits (hcs ▸ List.mem_cons_self))

/-- A text that is no truth value is a whole number if it reads as one, else a floating point number
if it reads as one, else itself. -/
theorem variableValue_eq {text : String} (ht : Text.lowercase text ≠ "true")
    (hf : Text.lowercase text ≠ "false") :
    variableValue text = ((Numeral.int64? text).map Scalar.integer <|>
      (Numeral.binary64? text).map Scalar.float).getD (.text text) := by
  unfold variableValue
  split
  · contradiction
  · contradiction
  · cases Numeral.int64? text <;> cases Numeral.binary64? text <;> rfl

theorem variableValue_verbatim {text : String} (h : Verbatim text) :
    (variableValue text).text? = some text := by
  cases h with
  | truth b => cases b <;> decide +kernel
  | @integer n hl hu =>
    obtain ⟨ht, hf⟩ := lowercase_toString n
    rw [variableValue_eq ht hf, Numeral.int64?_toString hl hu]
    rfl
  | @float x hx hzero =>
    obtain ⟨ht, hf⟩ := lowercase_text hx
    rw [variableValue_eq ht hf]
    cases hn : Numeral.int64? (x.text .plain) with
    | none =>
      rw [Binary64.binary64?_text hx]
      rfl
    | some n => exact congrArg some (Binary64.toString_of_int64?_text hx hzero hn)
  | other ht hf hn hx =>
    rw [variableValue_eq ht hf, hn, hx]
    rfl

theorem verbatim_of_variableValue {text : String} (h : (variableValue text).text? = some text) :
    Verbatim text := by
  by_cases ht : Text.lowercase text = "true"
  · simp only [variableValue, ht] at h
    exact Option.some.inj h ▸ .truth true
  by_cases hf : Text.lowercase text = "false"
  · simp only [variableValue, hf] at h
    exact Option.some.inj h ▸ .truth false
  rw [variableValue_eq ht hf] at h
  cases hn : Numeral.int64? text with
  | some n =>
    rw [hn] at h
    obtain ⟨hl, hu⟩ := Numeral.int64?_bounds hn
    exact Option.some.inj h ▸ .integer hl hu
  | none =>
    cases hx : Numeral.binary64? text with
    | none => exact .other ht hf hn hx
    | some x =>
      rw [hn, hx] at h
      have htext : x.text .plain = text := Option.some.inj h
      refine htext ▸ .float (Numeral.representable_of_binary64? hx) ?_
      rintro rfl
      have hread : Numeral.int64? ((Binary64.finite true 0 (-1074)).text .plain) = some 0 := by
        decide +kernel
      rw [htext, hn] at hread
      cases hread

theorem variableValue_verbatim_iff (text : String) :
    (variableValue text).text? = some text ↔ Verbatim text :=
  ⟨verbatim_of_variableValue, variableValue_verbatim⟩

/-- Files that have a text for a field, as a string, and are otherwise like others. -/
def Written (read : FileReader) (i : FieldName) (text : String) (files : Files)
    (chosen : Option String) (files' : Files) (chosen' : Option String) : Prop :=
  ∃ tables tables' o, (paths files chosen).mapM (read files) = .ok tables ∧
    (paths files' chosen').mapM (read files') = .ok tables' ∧
    Sets i (.scalar o (.text text)) (merge tables) (merge tables')

/-- One file more, that has the text in the section of the field and nothing else. -/
theorem written_on_top {read : FileReader} {i : FieldName} {text : String} {files files' : Files}
    {chosen chosen' : Option String} {tables : List Table} {o o' : Option Origin}
    (h : (paths files chosen).mapM (read files) = .ok tables)
    (h' : (paths files' chosen').mapM (read files') =
      .ok (tables ++ [[(i.owner.key, .table o' [(i.field.name, .scalar o (.text text))])]])) :
    Written read i text files chosen files' chosen' := by
  refine ⟨tables, _, o, h, h', ?_⟩
  have hmerge (last : Table) : merge (tables ++ [last]) = last.lay (merge tables) := by
    simp [merge]
  rw [hmerge]
  exact sets_section i o o' _ _

/-- A text set beneath entries that pass its field by reaches the field. -/
theorem Sets.reaches {o : Option Origin} {v : Scalar} {source : Table} {before : Settings}
    {text : String} (h : Sets i (.scalar o v) t t') (hi : i ∈ FieldName.textual)
    (hv : v.text? = some text) (hpass : ∀ entry ∈ source, i.PassedBy (keyPath entry.1))
    (hb : Settings.ofTable (source.lay t) = .ok before) :
    ∃ settings, Settings.ofTable (source.lay t') = .ok settings ∧
      i.text? settings = some text := by
  obtain ⟨x, hx, htext⟩ := convert_text hi o hv
  obtain ⟨settings, hok, hget⟩ := (h.lay hpass).ofTable hb hx
  exact ⟨settings, hok, by rw [FieldName.text?, hget, htext]⟩

theorem load_written {read : FileReader} {files files' : Files} {stored : Table}
    {chosen chosen' : Option String} {settings : Settings} {text : String}
    (hload : loadWith read files stored chosen = .ok settings) (hi : i ∈ FieldName.textual)
    (hpass : ∀ entry ∈ stored, i.PassedBy (keyPath entry.1))
    (h : Written read i text files chosen files' chosen') :
    ∃ settings', loadWith read files' stored chosen' = .ok settings' ∧
      i.text? settings' = some text := by
  obtain ⟨tables, ht, hs⟩ := loadWith_eq_ok.mp hload
  obtain ⟨_, tables', o, hread, hread', hsets⟩ := h
  obtain rfl := Except.ok.inj (ht.symm.trans hread)
  obtain ⟨settings', hok, htext⟩ := hsets.reaches hi rfl hpass hs
  exact ⟨settings', loadWith_eq_ok.mpr ⟨tables', hread', hok⟩, htext⟩

/-- An entry for the field alone that is stored somewhere among others. -/
theorem load_inserted {read : FileReader} {files : Files} {first last : Table}
    {chosen : Option String} {settings : Settings} {o : Option Origin} {v : Scalar}
    {text : String} (hload : loadWith read files (first ++ last) chosen = .ok settings)
    (hi : i ∈ FieldName.textual) (hv : v.text? = some text)
    (hlast : ∀ entry ∈ last, i.PassedBy (keyPath entry.1)) :
    ∃ settings', loadWith read files (first ++ (i.key, .scalar o v) :: last) chosen =
        .ok settings' ∧ i.text? settings' = some text := by
  obtain ⟨tables, ht, hs⟩ := loadWith_eq_ok.mp hload
  rw [lay_append] at hs
  obtain ⟨settings', hok, htext⟩ :=
    (sets_store (keyPath_field i) o v (first.lay (merge tables))).reaches hi hv hlast hs
  refine ⟨settings', loadWith_eq_ok.mpr ⟨tables, ht, ?_⟩, htext⟩
  rw [lay_append]
  exact hok

theorem exists_variable {environment : Environment} {entry : String × Setting}
    (h : entry ∈ ofEnvironment environment) :
    ∃ v ∈ environment, variableKey? v.1 = some entry.1 := by
  induction environment with
  | nil => cases h
  | cons v rest ih =>
    have hrest (h : entry ∈ ofEnvironment rest) :
        ∃ w ∈ v :: rest, variableKey? w.1 = some entry.1 := by
      obtain ⟨w, hw, hkey⟩ := ih h
      exact ⟨w, .tail _ hw, hkey⟩
    simp only [ofEnvironment] at h
    split at h
    case h_1 => exact hrest h
    case h_2 key hkey =>
      split at h
      case isTrue => exact hrest h
      case isFalse =>
        rcases List.mem_cons.mp h with rfl | h
        · exact ⟨v, .head _, hkey⟩
        · exact hrest h

theorem passed_of_silent {environment : Environment} (h : i.SilentOn environment) :
    ∀ entry ∈ ofEnvironment environment, i.PassedBy (keyPath entry.1) := by
  intro entry he
  obtain ⟨v, hv, hkey⟩ := exists_variable he
  exact h v hv _ hkey

/-- What passes a field by is not stored under its key. -/
theorem ne_key_of_passed {key : String} (h : i.PassedBy (keyPath key)) : key ≠ i.key := by
  rintro rfl
  rw [FieldName.key, keyPath_field] at h
  cases h with
  | outside hn => exact hn (lowercase_owner i)
  | beside hn => exact hn (lowercase_field i)

/-- The last variable with a key sets that, wherever it stands in the environment, and others with
this key do not count. -/
theorem ofEnvironment_insert {before after : Environment} {name key : String}
    (hname : variableKey? name = some key) (hafter : ∀ v ∈ after, variableKey? v.1 ≠ some key)
    (text : String) :
    (ofEnvironment (before ++ (name, text) :: after)).Perm
      ((key, .scalar (some .environment) (variableValue text)) ::
        ofEnvironment (unset before key ++ after)) := by
  induction before with
  | nil =>
    have hnew : (ofEnvironment after).any (fun entry => entry.1 = key) = false := by
      rw [List.any_eq_false]
      intro entry he hkey
      obtain ⟨v, hv, hk⟩ := exists_variable he
      exact hafter v hv (hk.trans (congrArg some (of_decide_eq_true hkey)))
    simp only [List.nil_append, ofEnvironment, hname, hnew, Bool.false_eq_true, ↓reduceIte]
    exact .refl _
  | cons v rest ih =>
    simp only [List.cons_append, ofEnvironment]
    cases hv : variableKey? v.1 with
    | none => simpa [unset, ofEnvironment, hv] using ih
    | some other =>
      simp only [ih.any_eq, List.any_cons]
      by_cases hsame : key = other
      · simpa [unset, hv, hsame] using ih
      · simp only [hsame, decide_false, Bool.false_or, unset, List.filter_cons, hv, ne_eq,
          Option.some.injEq, Ne.symm hsame, not_false_eq_true, decide_true, ↓reduceIte,
          List.cons_append, ofEnvironment]
        split
        · exact ih
        · exact (ih.cons _).trans (.swap ..)

/-- Where the entry of a key is one among others, these are the table without it. -/
theorem exists_split {stored others : Table} {entry : String × Setting}
    (h : stored.Perm (entry :: others)) (hnew : ∀ other ∈ others, other.1 ≠ entry.1) :
    ∃ first last, stored = first ++ entry :: last ∧ stored.without entry.1 = first ++ last ∧
      (first ++ last).Perm others := by
  obtain ⟨first, last, rfl⟩ := List.append_of_mem (h.mem_iff.mpr (.head _))
  have hp : (first ++ last).Perm others := (List.perm_middle.symm.trans h).cons_inv
  have hne : ∀ other ∈ first ++ last, other.1 ≠ entry.1 :=
    fun other ho => hnew other (hp.mem_iff.mp ho)
  refine ⟨first, last, rfl, ?_, hp⟩
  have hkeep : (first ++ last).filter (fun e => e.1 ≠ entry.1) = first ++ last :=
    List.filter_eq_self.mpr (fun other ho => decide_eq_true (hne other ho))
  rw [← hkeep]
  simp [Table.without]

/-- A variable that is set for a field of texts reaches it over whatever is in the files, and the
field holds the text of the value that was guessed: the given text for those that are verbatim, and
another one for all others. So it is in whatever order the variables are stored, as long as no other
one has anything to say of the field, those apart that it comes after and that set the field too. The
same text as a string in a file is held as it is. -/
theorem variable_reaches_field {read : FileReader} {files : Files} {before after : Environment}
    {chosen : Option String} {name : String} (hi : i ∈ FieldName.textual) (hname : i.SetBy name)
    (hbefore : i.SilentOn (unset before i.key)) (hafter : i.SilentOn after) (text : String) :
    (∀ stored : Table, stored.Perm (ofEnvironment (before ++ (name, text) :: after)) →
      (stored.without i.key).Perm (ofEnvironment (unset before i.key ++ after)) ∧
      ∀ settings, loadWith read files (stored.without i.key) chosen = .ok settings →
        ∃ settings', loadWith read files stored chosen = .ok settings' ∧
          i.text? settings' = (variableValue text).text? ∧
          (i.text? settings' = some text ↔ Verbatim text)) ∧
    ∀ stored : Table, stored.Perm (ofEnvironment (unset before i.key ++ after)) →
      ∀ settings, loadWith read files stored chosen = .ok settings →
        ∀ files' chosen', Written read i text files chosen files' chosen' →
          ∃ settings', loadWith read files' stored chosen' = .ok settings' ∧
            i.text? settings' = some text := by
  have hothers : i.SilentOn (unset before i.key ++ after) :=
    fun v hv => (List.mem_append.mp hv).elim (hbefore v) (hafter v)
  have hpass := passed_of_silent hothers
  have hinsert := @ofEnvironment_insert before _ _ _ (variableKey?_field hname)
    (fun v hv hk => ne_key_of_passed (hafter v hv _ hk) rfl) text
  constructor
  · intro stored hstored
    obtain ⟨first, last, rfl, hwithout, hp⟩ := exists_split (hstored.trans hinsert)
      (fun other ho => ne_key_of_passed (hpass other ho))
    rw [FieldName.key, hwithout]
    refine ⟨hp, fun settings hload => ?_⟩
    obtain ⟨held, hheld⟩ := variableValue_text text
    obtain ⟨settings', hok, htext⟩ := load_inserted hload hi hheld
      (fun entry he => hpass entry (hp.mem_iff.mp (List.mem_append_right _ he)))
    rw [← hheld] at htext
    exact ⟨settings', hok, htext, by rw [htext, variableValue_verbatim_iff]⟩
  · intro stored hstored settings hload files' chosen' hwritten
    exact load_written hload hi (fun entry he => hpass entry (hstored.mem_iff.mp he)) hwritten

/-- A model whose name begins with zeros, in a variable that comes after another one for the model,
in both orders, and in a file. -/
theorem variable_reaches_field_zeros :
    ∃ files files' : Files,
      (∀ stored : Table, stored.Perm (ofEnvironment [("HOME", "/root"),
          ("promptexec__llm__model", "old"), ("PROMPTEXEC__LLM__MODEL", "007"),
          ("PROMPTEXEC__LLM__TIMEOUT_SECS", "90")]) →
        ∃ settings, loadWith (readFile ownFormats) files stored none = .ok settings ∧
          settings.llm.model = "7") ∧
      ∃ settings, load files' [("HOME", "/root"), ("PROMPTEXEC__LLM__TIMEOUT_SECS", "90")]
          (some "mine.json") = .ok settings ∧ settings.llm.model = "007" := by
  let json := "\x7b\"llm\": \x7b\"model\": \"007\"\x7d\x7d"
  let files : Files := ⟨"/work", fun _ => .missing .notFound⟩
  let files' : Files := ⟨"/work", fun path =>
    if path = "mine.json" then .file json.toUTF8.data.toList else .missing .notFound⟩
  let o := some (Origin.file (Path.seenFrom "/work" "mine.json"))
  let others : Environment := [("HOME", "/root")] ++ [("PROMPTEXEC__LLM__TIMEOUT_SECS", "90")]
  have hothers : ofEnvironment others =
      [("llm.timeout_secs", .scalar (some .environment) (.integer 90))] := by rfl
  have hload : loadWith (readFile ownFormats) files (ofEnvironment others) none =
      .ok ⟨.default, { ModelSettings.default with timeout := 90 }⟩ := by rfl
  have hnone : variableKey? "HOME" = none := by decide
  have hunset : unset [("HOME", "/root"), ("promptexec__llm__model", "old")] FieldName.model.key =
      [("HOME", "/root")] := by
    have hold : variableKey? "promptexec__llm__model" = some FieldName.model.key := by decide
    simp [unset, hnone, hold]
  have hbefore : FieldName.model.SilentOn
      (unset [("HOME", "/root"), ("promptexec__llm__model", "old")] FieldName.model.key) := by
    rw [hunset]
    intro v hv key hkey
    rw [List.mem_singleton.mp hv, hnone] at hkey
    cases hkey
  have hafter : FieldName.model.SilentOn [("PROMPTEXEC__LLM__TIMEOUT_SECS", "90")] := by
    intro v hv key hkey
    have hsome : variableKey? "PROMPTEXEC__LLM__TIMEOUT_SECS" = some "llm.timeout_secs" := by decide
    have hpath : keyPath "llm.timeout_secs" = [.name "llm", .name "timeout_secs"] := by decide
    rw [List.mem_singleton.mp hv, hsome] at hkey
    rw [← Option.some.inj hkey, hpath]
    exact .beside (by decide)
  have hwritten :
      Written (readFile ownFormats) .model "007" files none files' (some "mine.json") := by
    have hread : Json.read? json = some (.obj [("llm", .obj [("model", .str "007")])]) := by
      dsimp only [json]
      rfl
    have hfind : findFile ownFormats files' "mine.json" = .ok ("mine.json", .json) := by rfl
    have htext : files'.readText "mine.json" = .ok json := by rfl
    have hpaths : paths files' (some "mine.json") = ["mine.json"] := by rfl
    have hnone : (paths files none).mapM (readFile ownFormats files) = .ok [] := by rfl
    have hone : (paths files' (some "mine.json")).mapM (readFile ownFormats files') =
        .ok [[("llm", .table o [("model", .scalar o (.text "007"))])]] := by
      rw [hpaths, List.mapM_cons, readFile_of_text hfind htext, read_json _ hread]
      rfl
    exact written_on_top hnone hone
  have hname : FieldName.model.SetBy "PROMPTEXEC__LLM__MODEL" := by
    unfold FieldName.SetBy
    decide
  obtain ⟨hvariable, hfile⟩ :=
    @variable_reaches_field .model (readFile ownFormats) files _ _ none _ (by decide) hname hbefore
      hafter "007"
  rw [hunset] at hvariable hfile
  refine ⟨files, files', fun stored hstored => ?_, ?_⟩
  · obtain ⟨hp, hreach⟩ := hvariable stored hstored
    have hp : (stored.without FieldName.model.key).Perm (ofEnvironment others) := hp
    rw [hothers] at hp hload
    obtain ⟨settings, hok, htext, -⟩ := hreach _ (List.perm_singleton.mp hp ▸ hload)
    exact ⟨settings, hok, Option.some.inj (htext.trans (by decide +kernel))⟩
  · obtain ⟨settings, hok, htext⟩ :=
      hfile _ (.refl _) _ hload files' (some "mine.json") hwritten
    exact ⟨settings, hok, Option.some.inj htext⟩

/-- Not every text reaches its field as it is: the zeros that a name begins with are lost. -/
theorem variable_not_verbatim :
    ¬ ∀ (files : Files) (before after : Environment) (chosen : Option String) (settings : Settings)
      (i : FieldName) (name text : String),
      load files (before ++ after) chosen = .ok settings → i ∈ FieldName.textual → i.SetBy name →
      i.SilentOn before → i.SilentOn after →
      ∃ settings', load files (before ++ (name, text) :: after) chosen = .ok settings' ∧
        i.text? settings' = some text := by
  intro h
  have hload : load ⟨"/work", fun _ => .missing .notFound⟩ ([] ++ []) none = .ok .default := by rfl
  have hname : FieldName.name.SetBy "PROMPTEXEC__APP__NAME" := by
    unfold FieldName.SetBy
    decide
  have hsilent : FieldName.name.SilentOn [] := by
    intro v hv
    cases hv
  obtain ⟨settings, hok, htext⟩ := h _ _ _ _ _ .name _ "007" hload (by decide) hname hsilent hsilent
  have hseven : load ⟨"/work", fun _ => .missing .notFound⟩ [("PROMPTEXEC__APP__NAME", "007")] none =
      .ok { Settings.default with app := { AppSettings.default with name := some "7" } } := by rfl
  obtain rfl := Except.ok.inj (hok.symm.trans hseven)
  exact absurd htext (by decide)

end Parley.Settings
