import Mathlib
import Parley.Settings.Fields

namespace Parley.Settings

def Plain (text : String) : Prop := ∀ c ∈ text.toList, isNameChar c

instance (text : String) : Decidable (Plain text) :=
  decidable_of_iff (text.toList.all isNameChar = true) List.all_eq_true

theorem readName_plain {text : String} (h : Plain text) (hne : text ≠ "") {rest : List Char}
    (hr : ∀ c ∈ rest.head?, isNameChar c = false) :
    readName (text.toList ++ rest) = some (.name text, rest) := by
  have htake : (text.toList ++ rest).takeWhile isNameChar = text.toList := by
    rw [List.takeWhile_append_of_pos h]
    cases rest with
    | nil => simp
    | cons c rest => simp [hr c rfl]
  have hdrop : (text.toList ++ rest).dropWhile isNameChar = rest := by
    rw [List.dropWhile_append_of_pos h]
    cases rest with
    | nil => rfl
    | cons c rest => simp [hr c rfl]
  simp [readName, List.span_eq_takeWhile_dropWhile, htake, hdrop, hne]

theorem readName_whole {text : String} (h : Plain text) (hne : text ≠ "") :
    readName text.toList = some (.name text, []) := by
  have hread : readName (text.toList ++ []) = some (.name text, []) :=
    readName_plain h hne (by simp)
  rwa [List.append_nil] at hread

/-- A key that is a name is its own path. -/
theorem keyPath_plain {key : String} (h : Plain key) : keyPath key = [.name key] := by
  by_cases hne : key = ""
  · subst hne
    rfl
  · simp [keyPath, keyPath?, readName_whole h hne, readParts]

/-- Two names with a point between them are a path. -/
theorem keyPath_pair {outer inner : String} (ho : Plain outer) (hi : Plain inner)
    (hone : outer ≠ "") (hine : inner ≠ "") :
    keyPath (outer ++ "." ++ inner) = [.name outer, .name inner] := by
  have houter : readName (outer.toList ++ '.' :: inner.toList) =
      some (.name outer, '.' :: inner.toList) :=
    readName_plain ho hone (by simp; decide)
  simp [keyPath, keyPath?, houter, readParts, readPart, readName_whole hi hine]

theorem takes_scalar (s : SectionName) (name : String) (o : Option Origin) (v : Scalar) :
    s.Takes name (.scalar o v) :=
  fun _ _ _ => ⟨o, v, rfl⟩

/-- A plain key outside the sections may hold anything. -/
theorem wellPlaced_outside {key : String} (h : Plain key) (hs : ∀ s : SectionName, ¬ s.Named key)
    (value : Setting) : WellPlaced (keyPath key) value := by
  rw [keyPath_plain h]
  exact .apart hs

/-- A section under a plain key is a table with single values for its fields. -/
theorem wellPlaced_section {key : String} {s : SectionName} {entries : Table} (h : Plain key)
    (hs : s.Named key) (he : ∀ entry ∈ entries, s.Takes entry.1 entry.2) (o : Option Origin) :
    WellPlaced (keyPath key) (.table o entries) := by
  rw [keyPath_plain h]
  exact .whole s hs he

/-- The variable of a field, in any case, is stored under the path of that field. -/
theorem variableKey?_field {name : String} {i : FieldName}
    (h : Text.lowercase name = variableMark ++ i.owner.key ++ "__" ++ i.field.name) :
    variableKey? name = some (i.owner.key ++ "." ++ i.field.name) := by
  simp only [variableKey?, h]
  cases i <;> rfl

theorem keyPath_field (i : FieldName) :
    keyPath (i.owner.key ++ "." ++ i.field.name) = [.name i.owner.key, .name i.field.name] := by
  cases i <;> exact keyPath_pair (by decide) (by decide) (by decide) (by decide)

theorem SectionName.key_injective {s s' : SectionName} (h : s.key = s'.key) : s = s' := by
  cases s <;> cases s' <;> first | rfl | exact absurd h (by decide)

def Table.inside (t : Table) (s : SectionName) : Table := ((t.lookup s.key).getD .nil).asTable.2

def Table.field? (t : Table) (i : FieldName) : Option Setting :=
  (t.inside i.owner).lookup i.field.name

def Table.Sectioned (t : Table) : Prop :=
  ∀ (s : SectionName) (v : Setting), t.lookup s.key = some v → ∃ o entries, v = .table o entries

theorem sectioned_nil : Table.Sectioned [] := by
  intro s v hv
  simp at hv

@[simp] theorem field?_nil (i : FieldName) : Table.field? [] i = none := rfl

theorem sectioned_update {t : Table} {name : String} {change : Option Setting → Setting}
    (ht : t.Sectioned)
    (hc : ∀ s : SectionName, s.key = name →
      ∃ o entries, change (t.lookup name) = .table o entries) :
    Table.Sectioned (t.update name change) := by
  intro s v hv
  rw [Table.lookup_update] at hv
  split at hv
  case isTrue hs =>
    obtain ⟨o, entries, he⟩ := hc s hs
    exact ⟨o, entries, (Option.some.inj hv).symm.trans he⟩
  case isFalse => exact ht s v hv

@[simp] theorem inside_update (t : Table) (name : String) (change : Option Setting → Setting)
    (s : SectionName) :
    Table.inside (t.update name change) s =
      if s.key = name then (change (t.lookup name)).asTable.2 else t.inside s := by
  simp only [Table.inside, Table.lookup_update]
  split <;> rfl

def Table.layEntries (t entries : Table) : Table :=
  entries.foldl
    (fun t (name, value) => t.update (Text.lowercase name) (fun old => value.layOver old)) t

@[simp] theorem asTable_table (o : Option Origin) (entries : Table) :
    (Setting.table o entries).asTable = (o, entries) := rfl

theorem layAll_table (o : Option Origin) (t entries : Table) :
    (Setting.table o t).layAll entries = .table o (t.layEntries entries) := by
  induction entries generalizing t with
  | nil => rfl
  | cons entry rest ih => exact ih _

/-- A table over a section, or over none, is the section with its entries. -/
theorem layOver_section {t : Table} (ht : t.Sectioned) (s : SectionName) (o : Option Origin)
    (entries : Table) :
    ∃ o', (Setting.table o entries).layOver (t.lookup s.key) =
      .table o' ((t.inside s).layEntries entries) := by
  unfold Table.inside
  cases hv : t.lookup s.key with
  | none => exact ⟨none, layAll_table none [] entries⟩
  | some v =>
    obtain ⟨o', old, rfl⟩ := ht s v hv
    exact ⟨o', layAll_table o' old entries⟩

theorem FieldName.among_cons (i : FieldName) (entry : String × Setting) (rest : Table) :
    i.among (entry :: rest) = (if i.Named entry.1 then [entry.2] else []) ++ i.among rest := by
  by_cases h : i.Named entry.1 <;> simp [FieldName.among, h]

/-- The last value that the entries have for a field stands, or the one before them. -/
theorem lookup_layEntries {entries : Table} {i : FieldName}
    (he : ∀ entry ∈ entries, i.owner.Takes entry.1 entry.2) (t : Table) :
    (t.layEntries entries).lookup i.field.name =
      (i.among entries).getLast?.or (t.lookup i.field.name) := by
  induction entries generalizing t with
  | nil => rfl
  | cons entry rest ih =>
    have hstep : t.layEntries (entry :: rest) =
        (t.update (Text.lowercase entry.1) (fun old => entry.2.layOver old)).layEntries rest := rfl
    rw [hstep, ih (fun e he' => he e (.tail _ he')), FieldName.among_cons, List.getLast?_append,
      Option.or_assoc, Table.lookup_update]
    by_cases h : i.Named entry.1
    · obtain ⟨o, v, hv⟩ := he entry (.head _) i rfl h
      have hn : i.field.name = Text.lowercase entry.1 := h.symm
      simp [h, hn, hv, Setting.layOver]
    · have hn : ¬ i.field.name = Text.lowercase entry.1 := fun e => h e.symm
      simp [h, hn]

theorem FieldName.valuesAt_apart {i : FieldName} {text : String} (h : ¬ i.owner.Named text)
    (path : List Part) (value : Setting) : i.valuesAt (.name text :: path) value = [] := by
  match path with
  | [] => simp [FieldName.valuesAt, h]
  | [.name _] => simp [FieldName.valuesAt, h]
  | [.index _] => rfl
  | .name _ :: _ :: _ | .index _ :: _ :: _ => rfl

theorem FieldName.valuesAt_deeper {i : FieldName} {text name : String} (h : ¬ i.Named name)
    (path : List Part) (value : Setting) :
    i.valuesAt (.name text :: .name name :: path) value = [] := by
  match path with
  | [] => simp [FieldName.valuesAt, h]
  | _ :: _ => rfl

theorem WellPlaced.head {path : List Part} {value : Setting} (h : WellPlaced path value) :
    ∃ text rest, path = .name text :: rest := by
  cases h <;> exact ⟨_, _, rfl⟩

/-- What is stored in a section gives its fields the values of the entry and leaves it a table. -/
theorem WellPlaced.storeAt {t : Table} {text : String} {path : List Part} {value : Setting}
    {s : SectionName} (h : WellPlaced (.name text :: path) value) (ht : t.Sectioned)
    (hs : s.Named text) :
    ∃ o entries, value.storeAt (t.lookup s.key) path = .table o entries ∧
      ∀ i : FieldName, i.owner = s → entries.lookup i.field.name =
        (i.valuesAt (.name text :: path) value).getLast?.or (t.field? i) := by
  cases h with
  | apart h => exact absurd hs (h s)
  | @whole _ entries o s' hs' he =>
    obtain rfl : s' = s := SectionName.key_injective (hs'.symm.trans hs)
    obtain ⟨o', ho'⟩ := layOver_section ht s' o entries
    refine ⟨o', _, ho', ?_⟩
    rintro i rfl
    simpa [FieldName.valuesAt, hs, Table.field?] using lookup_layEntries he (t.inside i.owner)
  | @single _ name _ s' hs' hv =>
    obtain rfl : s' = s := SectionName.key_injective (hs'.symm.trans hs)
    -- a single entry is laid like the table that has it alone
    refine ⟨_, (t.inside s').layEntries [(name, value)], rfl, ?_⟩
    rintro i rfl
    have he : ∀ entry ∈ [(name, value)], i.owner.Takes entry.1 entry.2 := by simpa using hv
    rw [lookup_layEntries he, FieldName.among_cons]
    simp [FieldName.valuesAt, hs, FieldName.among, Table.field?]
  | @deeper _ name path _ s' hs' hn =>
    obtain rfl : s' = s := SectionName.key_injective (hs'.symm.trans hs)
    refine ⟨_, (t.inside s').update (Text.lowercase name)
      (fun old => value.storeAt old path), rfl, ?_⟩
    rintro i rfl
    have hname : ¬ i.field.name = Text.lowercase name := fun e => hn i rfl e.symm
    simp [FieldName.valuesAt_deeper (hn i rfl), hname, Table.field?]

def Table.store (t : Table) (entry : String × Setting) : Table :=
  (entry.2.storeAt (some (.table none t)) (keyPath entry.1)).asTable.2

/-- A well-placed entry gives the fields its values and leaves the sections tables. -/
theorem store_placed {t : Table} {entry : String × Setting}
    (h : WellPlaced (keyPath entry.1) entry.2) (ht : t.Sectioned) :
    (t.store entry).Sectioned ∧ ∀ i : FieldName, (t.store entry).field? i =
      (i.valuesAt (keyPath entry.1) entry.2).getLast?.or (t.field? i) := by
  obtain ⟨text, path, hp⟩ := h.head
  have hstore : t.store entry =
      t.update (Text.lowercase text) (fun old => entry.2.storeAt old path) := by
    rw [Table.store, hp]
    rfl
  rw [hp] at h
  rw [hstore, hp]
  constructor
  · refine sectioned_update ht (fun s hs => ?_)
    obtain ⟨o, entries, he, _⟩ := h.storeAt ht hs.symm
    exact ⟨o, entries, hs ▸ he⟩
  · intro i
    by_cases hs : i.owner.Named text
    · obtain ⟨o, entries, he, hf⟩ := h.storeAt ht hs
      have hkey : Text.lowercase text = i.owner.key := hs
      simpa [Table.field?, hkey, he] using hf i rfl
    · have hkey : ¬ i.owner.key = Text.lowercase text := fun e => hs e.symm
      simp [Table.field?, hkey, FieldName.valuesAt_apart hs]

theorem Table.values_cons (entry : String × Setting) (rest : Table) (i : FieldName) :
    Table.values (entry :: rest) i =
      i.valuesAt (keyPath entry.1) entry.2 ++ Table.values rest i := rfl

theorem Table.lay_cons (entry : String × Setting) (rest t : Table) :
    Table.lay (entry :: rest) t = Table.lay rest (t.store entry) := rfl

/-- The last value that a source has for a field stands, or the one below it. -/
theorem lay_placed {source : Table} (h : ∀ entry ∈ source, WellPlaced (keyPath entry.1) entry.2)
    {t : Table} (ht : t.Sectioned) :
    (source.lay t).Sectioned ∧ ∀ i : FieldName, (source.lay t).field? i =
      (source.values i).getLast?.or (t.field? i) := by
  induction source generalizing t with
  | nil => exact ⟨ht, fun i => rfl⟩
  | cons entry rest ih =>
    obtain ⟨hs, hf⟩ := store_placed (h entry (.head _)) ht
    obtain ⟨hs', hf'⟩ := ih (fun e he => h e (.tail _ he)) hs
    refine ⟨hs', fun i => ?_⟩
    rw [Table.lay_cons, hf', hf, Table.values_cons, List.getLast?_append, Option.or_assoc]

theorem Table.Orderly.given?_eq {source : Table} (h : source.Orderly) (i : FieldName) :
    source.given? i = (source.values i).getLast? := by
  have hone := h.once i
  unfold Table.given?
  match source.values i, hone with
  | [], _ => rfl
  | [_], _ => rfl

/-- The order of entries does not show in a source that is orderly. -/
theorem Table.Orderly.perm {source other : Table} (h : source.Orderly) (hp : other.Perm source) :
    other.Orderly ∧ ∀ i, other.given? i = source.given? i := by
  have hvalues (i : FieldName) : (other.values i).Perm (source.values i) := hp.flatMap_right _
  refine ⟨⟨fun entry he => h.placed entry (hp.mem_iff.mp he), fun i => ?_⟩, fun i => ?_⟩
  · rw [(hvalues i).length_eq]
    exact h.once i
  · have hone := h.once i
    have hsame := hvalues i
    unfold Table.given?
    generalize source.values i = values at hone hsame
    match values, hone with
    | [], _ => rw [hsame.eq_nil]
    | [_], _ => rw [List.perm_singleton.mp hsame]

/-- Sources laid over a table, each orderly: the last that has a value for a field decides. -/
theorem lays_orderly {sources : List Table} (h : ∀ source ∈ sources, source.Orderly) {t : Table}
    (ht : t.Sectioned) :
    Table.Sectioned (sources.foldl (fun t source => source.lay t) t) ∧
      ∀ i : FieldName, Table.field? (sources.foldl (fun t source => source.lay t) t) i =
        (sources.reverse.findSome? (·.given? i)).or (t.field? i) := by
  induction sources generalizing t with
  | nil => exact ⟨ht, fun i => rfl⟩
  | cons source rest ih =>
    have ho := h source (.head _)
    obtain ⟨hs, hf⟩ := lay_placed ho.placed ht
    obtain ⟨hs', hf'⟩ := ih (fun s hs => h s (.tail _ hs)) hs
    refine ⟨hs', fun i => ?_⟩
    rw [List.foldl_cons, hf', hf, ← ho.given?_eq, List.reverse_cons, List.findSome?_append,
      Option.or_assoc]
    cases hg : source.given? i <;> simp [hg]

theorem given?_tables (l : Layers) (i : FieldName) :
    l.given? i = l.tables.reverse.findSome? (·.given? i) := by
  have hone (o : Option Table) : o.toList.reverse.findSome? (·.given? i) = o.bind (·.given? i) := by
    cases o <;> simp
  simp only [Layers.given?, Layers.tables, List.reverse_append, List.findSome?_append, hone]
  cases hg : l.environment.given? i <;> simp [hg]

/-- The merged sources hold for a field what the source of the highest rank says of it. -/
theorem merge_layers {l : Layers} (h : ∀ source ∈ l.tables, source.Orderly) :
    (merge l.tables).Sectioned ∧ ∀ i, (merge l.tables).field? i = l.given? i := by
  obtain ⟨hs, hf⟩ := lays_orderly h sectioned_nil
  refine ⟨hs, fun i => (hf i).trans ?_⟩
  simp [given?_tables]

/-- So they do in whatever order the entries of the environment are stored. -/
theorem merge_reordered {l : Layers} (h : ∀ source ∈ l.tables, source.Orderly) {stored : Table}
    (hp : stored.Perm l.environment) :
    Table.Sectioned (merge { l with environment := stored }.tables) ∧
      ∀ i, Table.field? (merge { l with environment := stored }.tables) i = l.given? i := by
  obtain ⟨ho, hg⟩ := (h l.environment (by simp [Layers.tables])).perm hp
  have hall : ∀ source ∈ { l with environment := stored }.tables, source.Orderly := by
    simp only [Layers.tables, List.forall_mem_append, List.forall_mem_singleton] at h ⊢
    exact ⟨h.1, ho⟩
  obtain ⟨hs, hf⟩ := merge_layers hall
  refine ⟨hs, fun i => (hf i).trans ?_⟩
  simp only [Layers.given?, hg]

theorem bind_eq_ok {α β : Type} {x : Except SettingsError α} {f : α → Except SettingsError β}
    {b : β} : (x >>= f) = .ok b ↔ ∃ a, x = .ok a ∧ f a = .ok b := by
  cases x <;> simp [bind, Except.bind]

/-- A field of a section that is a table. -/
theorem field_resolve (i : FieldName) (o : Option Origin) (entries : Table) :
    (Setting.table o entries).field i.owner i.field = i.resolve (entries.lookup i.field.name) := by
  simp only [Setting.field]
  cases entries.lookup i.field.name <;> rfl

/-- The setting for a section. One that is missing is like a table without entries. -/
def Table.sectionAt (t : Table) (s : SectionName) : Setting :=
  (t.lookup s.key).getD (.table none [])

theorem ofTable_sections (t : Table) :
    ofTable t = do
      let app ← AppSettings.ofSetting (t.sectionAt .app)
      let llm ← ModelSettings.ofSetting (t.sectionAt .llm)
      return { app, llm } := by
  unfold ofTable Table.sectionAt
  cases t.lookup SectionName.app.key <;> cases t.lookup SectionName.llm.key <;> rfl

/-- The settings of a table are those whose fields are what the settings of the sections hold. -/
theorem ofTable_eq_ok_iff_fields {t : Table} {settings : Settings} :
    ofTable t = .ok settings ↔
      ∀ i : FieldName, (t.sectionAt i.owner).field i.owner i.field = .ok (i.get settings) := by
  rw [ofTable_sections]
  simp only [AppSettings.ofSetting, ModelSettings.ofSetting, bind_eq_ok]
  constructor
  · rintro ⟨_, ⟨_, hname, _, hprompt, _, hfile, ⟨⟩⟩, _,
      ⟨_, hprovider, _, hmodel, _, hurl, _, hkey, _, htimeout, ⟨⟩⟩, ⟨⟩⟩ i
    cases i <;> assumption
  · intro h
    exact ⟨_, ⟨_, h .name, _, h .systemPrompt, _, h .systemPromptFile, rfl⟩, _,
      ⟨_, h .provider, _, h .model, _, h .baseUrl, _, h .apiKeyVariable, _, h .timeout, rfl⟩, rfl⟩

/-- In a table of sections a field is what the table holds for it. -/
theorem field_sectioned {t : Table} (ht : t.Sectioned) (i : FieldName) :
    (t.sectionAt i.owner).field i.owner i.field = i.resolve (t.field? i) := by
  unfold Table.field? Table.inside Table.sectionAt
  cases hv : t.lookup i.owner.key with
  | none => rfl
  | some v =>
    obtain ⟨o, entries, rfl⟩ := ht i.owner v hv
    exact field_resolve i o entries

/-- The settings of a table of sections are those whose fields are what the table holds for them. -/
theorem ofTable_eq_ok {t : Table} (ht : t.Sectioned) {settings : Settings} :
    ofTable t = .ok settings ↔ ∀ i : FieldName, i.resolve (t.field? i) = .ok (i.get settings) := by
  simp only [ofTable_eq_ok_iff_fields, field_sectioned ht]

/-- A table has settings exactly if each field resolves. -/
theorem ofTable_ok_iff {t : Table} (ht : t.Sectioned) :
    (∃ settings, ofTable t = .ok settings) ↔
      ∀ i : FieldName, ∃ x, i.resolve (t.field? i) = .ok x := by
  constructor
  · rintro ⟨settings, h⟩ i
    exact ⟨_, (ofTable_eq_ok ht).mp h i⟩
  · intro h
    choose values hvalues using h
    exact ⟨FieldName.settings values, (ofTable_eq_ok ht).mpr (fun i => by
      rw [hvalues, FieldName.get_settings])⟩

theorem mapM_toList {α β : Type} (f : α → Except SettingsError β) (o : Option α) :
    o.toList.mapM f = (o.mapM f).map Option.toList := by
  cases o with
  | none => rfl
  | some a =>
    cases h : f a <;>
      simp [h, Except.map, Functor.map, bind, Except.bind, pure, Except.pure]

theorem environment_of_layers {read : FileReader} {files : Files} {environment : Environment}
    {chosen : Option String} {l : Layers} (h : layers read files environment chosen = .ok l) :
    l.environment = ofEnvironment environment := by
  simp only [layers, bind_eq_ok] at h
  obtain ⟨_, _, _, _, ⟨⟩⟩ := h
  rfl

theorem sources_layers (read : FileReader) (files : Files) (environment : Environment)
    (stored : Table) (chosen : Option String) :
    sources read files stored chosen = (layers read files environment chosen).map
      (fun l => { l with environment := stored }.tables) := by
  simp only [sources, paths, List.mapM_append, mapM_toList, layers]
  cases (bundledPaths.find? files.exists?).mapM (read files) <;>
    cases (chosen.filter files.exists?).mapM (read files) <;> rfl

/-- Reading a file is finding it, reading its text and reading that in the format. -/
theorem readFile_of_text {formats : List Format} {files : Files} {path found text : String}
    {format : Format} (hf : findFile formats files path = .ok (found, format))
    (ht : files.readText found = .ok text) :
    readFile formats files path =
      format.read (.file (Path.seenFrom files.workingDirectory found)) text := by
  simp [readFile, hf, ht, bind, Except.bind]

theorem read_toml {text : String} {entries : List (String × Toml.Value)} (origin : Origin)
    (h : Toml.read? text = some entries) :
    Format.toml.read origin text = .ok (Setting.ofTomlEntries origin entries) := by
  simp [Format.toml, h]

theorem read_json {text : String} {members : List (String × Json)} (origin : Origin)
    (h : Json.read? text = some (.obj members)) :
    Format.json.read origin text = .ok (Setting.ofJsonMembers origin members) := by
  simp [Format.json, h]

/-- Loading goes field by field, whatever reads the files and in whatever order the variables are
stored. With files that can be read and orderly sources it succeeds exactly if, for each field, the
value from the source of the highest rank that has one converts; and then the field is that value,
or its default where no source has one. -/
theorem load_field_by_field {read : FileReader} {files : Files} {environment : Environment}
    {chosen : Option String} {l : Layers} (h : layers read files environment chosen = .ok l)
    (ho : ∀ source ∈ l.tables, source.Orderly) {stored : Table}
    (hp : stored.Perm (ofEnvironment environment)) :
    ((∃ settings, loadWith read files stored chosen = .ok settings) ↔
      ∀ (i : FieldName) (value : Setting), l.given? i = some value →
        ∃ x, i.convert value = .ok x) ∧
    ∀ settings, loadWith read files stored chosen = .ok settings → ∀ i : FieldName,
      (∀ value, l.given? i = some value → i.convert value = .ok (i.get settings)) ∧
      (l.given? i = none → i.get settings = i.get .default) := by
  obtain ⟨hs, hf⟩ := merge_reordered ho ((environment_of_layers h).symm ▸ hp)
  have hload : loadWith read files stored chosen =
      ofTable (merge { l with environment := stored }.tables) := by
    rw [loadWith, sources_layers read files environment, h]
    rfl
  rw [hload]
  constructor
  · rw [ofTable_ok_iff hs]
    refine forall_congr' fun i => ?_
    rw [hf]
    cases l.given? i <;> simp [FieldName.resolve]
  · intro settings hok i
    have hi := (ofTable_eq_ok hs).mp hok i
    rw [hf] at hi
    constructor
    · intro value hv
      rwa [hv] at hi
    · intro hn
      rw [hn] at hi
      exact (Except.ok.inj hi).symm.trans i.field_default

/-- A bundled file, one that is named and a variable that set the same field: the variable goes over
the values in both files, and other fields are as the only source has them that sets them. So it is
in both orders of the two variables. -/
theorem load_field_by_field_three_sources :
    ∃ (files : Files) (environment : Environment), (ofEnvironment environment).length = 2 ∧
      ∀ stored : Table, stored.Perm (ofEnvironment environment) → ∃ settings,
        loadWith (readFile ownFormats) files stored (some "mine.json") = .ok settings ∧
        settings.app.name = some "demo" ∧ settings.app.systemPrompt = defaultInlinePrompt ∧
        settings.llm.model = "small" ∧ settings.llm.timeout = 90 := by
  let toml := "[app]\nname = \"demo\"\n[llm]\ntimeout_secs = 30"
  let json := "\x7b\"LLM\": \x7b\"Model\": \"small\", \"timeout_secs\": \"45\"\x7d, \"theme\": []\x7d"
  let files : Files := ⟨"/work", fun path =>
    if path = "config/default.toml" then .file toml.toUTF8.data.toList
    else if path = "mine.json" then .file json.toUTF8.data.toList
    else .missing .notFound⟩
  let environment : Environment := [("PROMPTEXEC__LLM__TIMEOUT_SECS", "90"), ("HOME", "/root"),
    ("promptexec__theme", "dark")]
  let o := some (Origin.file (Path.seenFrom "/work" "config/default.toml"))
  let bundled : Table :=
    [("app", .table o [("name", .scalar o (.text "demo"))]),
      ("llm", .table o [("timeout_secs", .scalar o (.integer 30))])]
  let o' := some (Origin.file (Path.seenFrom "/work" "mine.json"))
  let explicit : Table :=
    [("LLM", .table o' [("Model", .scalar o' (.text "small")),
        ("timeout_secs", .scalar o' (.text "45"))]),
      ("theme", .array o' [])]
  let l : Layers := ⟨some bundled, some explicit, ofEnvironment environment⟩
  have hbundled : readFile ownFormats files "config/default.toml" = .ok bundled := by
    have hread : Toml.read? toml = some [("app", .table [("name", .string "demo")]),
        ("llm", .table [("timeout_secs", .integer 30)])] := by
      dsimp only [toml]
      cbv
    have hfind : findFile ownFormats files "config/default.toml" =
        .ok ("config/default.toml", .toml) := by rfl
    have htext : files.readText "config/default.toml" = .ok toml := by rfl
    rw [readFile_of_text hfind htext, read_toml _ hread]
    simp [bundled, o, files, Setting.ofTomlEntries, Setting.ofToml]
  have hexplicit : readFile ownFormats files "mine.json" = .ok explicit := by
    have hread : Json.read? json = some (.obj [("LLM", .obj [("Model", .str "small"),
        ("timeout_secs", .str "45")]), ("theme", .arr [])]) := by
      dsimp only [json]
      rfl
    have hfind : findFile ownFormats files "mine.json" = .ok ("mine.json", .json) := by rfl
    have htext : files.readText "mine.json" = .ok json := by rfl
    rw [readFile_of_text hfind htext, read_json _ hread]
    simp [explicit, o', files, Setting.ofJsonMembers, Setting.ofJsonItems, Setting.ofJson]
  have hl : layers (readFile ownFormats) files environment (some "mine.json") = .ok l := by
    have hfirst : bundledPaths.find? files.exists? = some "config/default.toml" := by rfl
    have hchosen : (some "mine.json").filter files.exists? = some "mine.json" := by rfl
    rw [layers, hfirst, hchosen]
    simp only [Option.mapM_some, hbundled, hexplicit]
    rfl
  have hb : Table.Orderly bundled := by
    refine ⟨?_, fun i => by cases i <;> decide⟩
    simp only [bundled, List.forall_mem_cons]
    exact ⟨wellPlaced_section (s := .app) (by decide) (by decide) (by simp [takes_scalar]) o,
      wellPlaced_section (s := .llm) (by decide) (by decide) (by simp [takes_scalar]) o, by simp⟩
  have he : Table.Orderly explicit := by
    refine ⟨?_, fun i => by cases i <;> decide⟩
    simp only [explicit, List.forall_mem_cons]
    exact ⟨wellPlaced_section (s := .llm) (by decide) (by decide) (by simp [takes_scalar]) o',
      wellPlaced_outside (by decide) (by rintro (_ | _) <;> decide) _, by simp⟩
  have hv : Table.Orderly (ofEnvironment environment) := by
    refine ⟨?_, fun i => by cases i <;> decide⟩
    have hvariables : ofEnvironment environment =
        [("llm.timeout_secs", .scalar (some .environment) (.integer 90)),
          ("theme", .scalar (some .environment) (.text "dark"))] := by rfl
    have hpath : keyPath "llm.timeout_secs" = [.name "llm", .name "timeout_secs"] := by decide
    have hsection : SectionName.llm.Named "llm" := by decide
    simp only [hvariables, List.forall_mem_cons, hpath]
    exact ⟨.single .llm hsection (takes_scalar _ _ _ _),
      wellPlaced_outside (by decide) (by rintro (_ | _) <;> decide) _, by simp⟩
  have horderly : ∀ source ∈ l.tables, source.Orderly := by
    simpa [l, Layers.tables] using ⟨hb, he, hv⟩
  have hgiven (i : FieldName) : l.given? i =
      if i = .name then some (.scalar o (.text "demo"))
      else if i = .model then some (.scalar o' (.text "small"))
      else if i = .timeout then some (.scalar (some .environment) (.integer 90))
      else none := by
    cases i <;> dsimp only [l, bundled, explicit, environment, o, o'] <;> rfl
  refine ⟨files, environment, rfl, fun stored hp => ?_⟩
  obtain ⟨hiff, hval⟩ := load_field_by_field hl horderly hp
  obtain ⟨settings, hok⟩ := hiff.mpr (fun i value hg => by
    rw [hgiven] at hg
    cases i <;> cases hg <;> exact ⟨_, rfl⟩)
  have hvalue := hval settings hok
  refine ⟨settings, hok, ?_, ?_, ?_, ?_⟩
  · exact (Except.ok.inj ((hvalue .name).1 _ (hgiven .name))).symm
  · exact (hvalue .systemPrompt).2 (hgiven .systemPrompt)
  · exact (Except.ok.inj ((hvalue .model).1 _ (hgiven .model))).symm
  · exact (Except.ok.inj ((hvalue .timeout).1 _ (hgiven .timeout))).symm

end Parley.Settings
