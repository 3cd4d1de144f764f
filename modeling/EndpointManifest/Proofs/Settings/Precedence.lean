import EndpointManifest.CommandLine.Generate
import EndpointManifest.Proofs.Settings.Field
import EndpointManifest.Proofs.Settings.Load
import Mathlib.Data.List.Nodup

/-! Where the raw value of a field comes from: an override that is not null, or else the settings
file, or else the default. Each field is decided by itself, and what the file says under other keys
or behind an override does not count. -/

namespace EndpointManifest

open Text

theorem Datum.entry?_append (name : Text) (entries entries' : List (Datum × Datum)) :
    Datum.entry? name (entries ++ entries') =
      (Datum.entry? name entries').or (Datum.entry? name entries) := by
  rw [Datum.entry?, List.reverse_append, List.findSome?_append]
  rfl

theorem Datum.entry?_singleton (name other : Text) (d : Datum) :
    Datum.entry? name [(.text other, d)] = if other = name then some d else none := by
  by_cases h : other = name <;> simp [Datum.entry?, h]

namespace Settings

variable {disk : Disk} {path : Text} {entries : List (Datum × Datum)}
  {overrides : List (Text × Datum)} {name : Text} {s : Settings}

def override? (overrides : List (Text × Datum)) (name : Text) : Option Datum :=
  match overrides.lookup name with
  | some .null => none
  | found => found

/-- Overrides that give nothing but fields, and each of them once. -/
structure OverFields (overrides : List (Text × Datum)) : Prop where
  nodup : (overrides.map Prod.fst).Nodup
  isField : ∀ name ∈ overrides.map Prod.fst, ∃ field : Field, field.name = name

/-- The value that the entries of a settings file leave a field with. -/
def Field.fromFile (entries : List (Datum × Datum)) (field : Field) : Datum :=
  (Datum.entry? field.name entries).getD field.default

def rawValue (entries : List (Datum × Datum)) (overrides : List (Text × Datum)) (field : Field) :
    Datum :=
  (override? overrides field.name).getD (field.fromFile entries)

theorem OverFields.of_fields {fields : List Field} (hfields : fields.Nodup)
    (h : overrides.map Prod.fst = fields.map Field.name) : OverFields overrides := by
  constructor
  · rw [h]
    exact hfields.map Field.name_injective
  · intro name hname
    rw [h] at hname
    obtain ⟨field, _, rfl⟩ := List.mem_map.1 hname
    exact ⟨field, rfl⟩

theorem effective_cons (name : Text) (d : Datum) (overrides : List (Text × Datum)) :
    effective ((name, d) :: overrides) = effective [(name, d)] ++ effective overrides := by
  rw [← List.singleton_append]
  simp only [effective, List.filter_append, List.map_append]

theorem entry?_effective_singleton (name other : Text) (d : Datum) :
    Datum.entry? name (effective [(other, d)]) =
      if other = name then override? [(other, d)] other else none := by
  have hlookup : [(other, d)].lookup other = some d := by simp
  cases d with
  | null => simp [effective, Datum.entry?, override?]
  | _ => rw [override?, hlookup]; exact Datum.entry?_singleton name other _

theorem entry?_effective_of_notMem (h : name ∉ overrides.map Prod.fst) :
    Datum.entry? name (effective overrides) = none := by
  induction overrides with
  | nil => rfl
  | cons override overrides ih =>
    obtain ⟨other, d⟩ := override
    rw [List.map_cons, List.mem_cons, not_or] at h
    rw [effective_cons, Datum.entry?_append, ih h.2, entry?_effective_singleton,
      if_neg (Ne.symm h.1), Option.or_none]

/-- Among overrides that give each name once, the null ones are those that count as not given. -/
theorem entry?_effective (h : (overrides.map Prod.fst).Nodup) (name : Text) :
    Datum.entry? name (effective overrides) = override? overrides name := by
  induction overrides with
  | nil => rfl
  | cons override overrides ih =>
    obtain ⟨other, d⟩ := override
    rw [List.map_cons, List.nodup_cons] at h
    rw [effective_cons, Datum.entry?_append, entry?_effective_singleton]
    by_cases hname : other = name
    · subst hname
      rw [entry?_effective_of_notMem h.1, Option.none_or, if_pos rfl]
      simp [override?]
    · rw [ih h.2, if_neg hname, Option.or_none, override?, override?, List.lookup_cons,
        beq_false_of_ne (Ne.symm hname)]

theorem entry?_getD_default (h : OverFields overrides) (field : Field) :
    (Datum.entry? field.name (entries ++ effective overrides)).getD field.default =
      rawValue entries overrides field := by
  rw [Datum.entry?_append, entry?_effective h.nodup, rawValue, Field.fromFile]
  cases override? overrides field.name <;> rfl

theorem ofEntries_eq_valid (h : OverFields overrides) :
    ofEntries (entries ++ effective overrides) = .valid s ↔
      ∀ field : Field, field.checkValue (rawValue entries overrides field) =
        .valid (s.get field) := by
  simp only [ofEntries, ofRaw_eq_valid_iff_checkValue, entry?_getD_default h]

theorem faults_ofEntries (h : OverFields overrides) :
    (ofEntries (entries ++ effective overrides)).faults =
      Field.all.flatMap fun field => field.faults (rawValue entries overrides field) := by
  simp only [ofEntries, faults_ofRaw, entry?_getD_default h]

theorem OverFields.path_notMem (h : OverFields overrides) :
    ¬ ∃ override ∈ overrides, override.1 = "path".toList := by
  rintro ⟨override, hmem, hpath⟩
  obtain ⟨field, hfield⟩ := h.isField _ (List.mem_map_of_mem (f := Prod.fst) hmem)
  have hname : field.name = "path".toList := hfield.trans hpath
  cases field <;> revert hname <;> decide

/-- The settings from a file with text keys are those of its entries and the overrides. -/
theorem load_eq_ofEntries (hne : path ≠ []) (hread : fileEntries disk path = .ok entries)
    (htext : ∀ e ∈ entries, e.1.isText = true) (h : OverFields overrides) :
    load disk (some path) overrides =
      (ofEntries (entries ++ effective overrides)).toExcept.mapError .invalid := by
  rw [load_eq, if_neg h.path_notMem, givenEntries_some hne, hread]
  exact ofEntriesWith_of_isText htext

theorem load_eq_ok_iff (hne : path ≠ []) (hread : fileEntries disk path = .ok entries)
    (htext : ∀ e ∈ entries, e.1.isText = true) (h : OverFields overrides) :
    load disk (some path) overrides = .ok s ↔
      ∀ field : Field, field.checkValue (rawValue entries overrides field) =
        .valid (s.get field) := by
  rw [load_eq_ofEntries hne hread htext h, mapError_eq_ok, Checked.toExcept_eq_ok,
    ofEntries_eq_valid h]

theorem faults_of_load (hne : path ≠ []) (hread : fileEntries disk path = .ok entries)
    (htext : ∀ e ∈ entries, e.1.isText = true) (h : OverFields overrides) {e : LoadError}
    (hload : load disk (some path) overrides = .error e) :
    e = .invalid (Field.all.flatMap fun field => field.faults (rawValue entries overrides field)) := by
  rw [load_eq_ofEntries hne hread htext h] at hload
  rw [← faults_ofEntries h]
  cases hfound : ofEntries (entries ++ effective overrides) with
  | valid s =>
    rw [hfound] at hload
    cases hload
  | faulty faults =>
    rw [hfound] at hload
    exact (Except.error.inj hload).symm

/-- The raw values of the fields decide what is loaded. -/
theorem load_congr {disk' : Disk} {path' : Text} {entries' : List (Datum × Datum)}
    (hne : path ≠ []) (hread : fileEntries disk path = .ok entries)
    (htext : ∀ e ∈ entries, e.1.isText = true) (hne' : path' ≠ [])
    (hread' : fileEntries disk' path' = .ok entries') (htext' : ∀ e ∈ entries', e.1.isText = true)
    (h : OverFields overrides)
    (hraw : ∀ field, rawValue entries' overrides field = rawValue entries overrides field) :
    load disk' (some path') overrides = load disk (some path) overrides := by
  cases hload : load disk (some path) overrides with
  | ok s =>
    rw [load_eq_ok_iff hne hread htext h] at hload
    rw [load_eq_ok_iff hne' hread' htext' h]
    simpa only [hraw] using hload
  | error e =>
    cases hload' : load disk' (some path') overrides with
    | ok s =>
      rw [load_eq_ok_iff hne' hread' htext' h] at hload'
      simp only [hraw] at hload'
      cases hload.symm.trans ((load_eq_ok_iff hne hread htext h).2 hload')
    | error e' =>
      rw [faults_of_load hne hread htext h hload, faults_of_load hne' hread' htext' h hload']
      simp only [hraw]

theorem exists_get (v : ∀ field : Field, field.Value) : ∃ s : Settings, ∀ field, s.get field = v field :=
  ⟨⟨v .testsDir, v .outDir, v .suffixes, v .receivers, v .window, v .workers, v .withJson, v .withTs,
    v .humanizeFileNames⟩, fun field => by cases field <;> rfl⟩

/-- A field is named among the faults iff its raw value is none of its values. -/
theorem exists_fault_iff {raw : Field → Datum} {field : Field} :
    (∃ fault ∈ Field.all.flatMap fun field => field.faults (raw field),
        fault.place.head? = some (.field field.name)) ↔
      ∀ v, field.checkValue (raw field) ≠ .valid v := by
  rw [← Field.faults_ne_nil_iff]
  constructor
  · rintro ⟨fault, hfault, hplace⟩
    obtain ⟨other, _, hfault⟩ := List.mem_flatMap.1 hfault
    have hname : Place.field other.name = .field field.name :=
      Option.some.inj ((Field.head?_of_mem_faults hfault).symm.trans hplace)
    obtain rfl := Field.name_injective (Place.field.inj hname)
    exact List.ne_nil_of_mem hfault
  · intro hne
    obtain ⟨fault, hfault⟩ := List.exists_mem_of_ne_nil _ hne
    exact ⟨fault, List.mem_flatMap.2 ⟨field, field.mem_all, hfault⟩, Field.head?_of_mem_faults hfault⟩

end Settings

namespace CommandLine.Generate

open Settings

/-- What the command line gives a field; a flag that is not there gives nothing. -/
def given (g : Generate) : Field → Option Datum
  | .testsDir => g.testsDir.map .text
  | .outDir => g.outDir.map .text
  | .workers => g.workers.map .int
  | .withJson => if g.withJson then some (.bool true) else none
  | .withTs => if g.withTs then some (.bool true) else none
  | .humanizeFileNames => if g.humanize then some (.bool true) else none
  | .suffixes | .receivers | .window => none

theorem override?_overrides (g : Generate) (field : Field) :
    override? g.overrides field.name = g.given field := by
  obtain ⟨root, testsDir, outDir, config, withJson, withTs, workers, humanize, dryRun, verbose⟩ := g
  cases field with
  | testsDir => cases testsDir <;> rfl
  | outDir => cases outDir <;> rfl
  | workers => cases workers <;> rfl
  | withJson => cases withJson <;> rfl
  | withTs => cases withTs <;> rfl
  | humanizeFileNames => cases humanize <;> rfl
  | suffixes | receivers | window => rfl

theorem overFields_overrides (g : Generate) : OverFields g.overrides := by
  have hfields : ([.testsDir, .outDir, .workers, .withJson, .withTs, .humanizeFileNames] :
      List Field).Nodup := by decide
  exact .of_fields hfields rfl

/-- On a command line without a flag the settings file counts, or else the default. -/
theorem settings_eq_ok_iff {disk : Disk} {g : Generate} {path : Text}
    {entries : List (Datum × Datum)} {s : Settings}
    (hpath : settingsPath disk g.root g.config = .ok (some path)) (hne : path ≠ [])
    (hread : fileEntries disk path = .ok entries) (htext : ∀ e ∈ entries, e.1.isText = true) :
    g.settings disk = .ok s ↔
      ∀ field : Field, field.checkValue ((g.given field).getD (field.fromFile entries)) =
        .valid (s.get field) := by
  have hload := load_eq_ok_iff (s := s) hne hread htext g.overFields_overrides
  simp only [rawValue, override?_overrides] at hload
  rw [← hload, settings, hpath]
  exact mapError_eq_ok

end CommandLine.Generate

namespace Settings

/-- The settings from a file and overrides: each field is decided by its own raw value. -/
theorem load_by_field {disk : Disk} {path : Text} {entries overrides}
    (hne : path ≠ []) (hread : fileEntries disk path = .ok entries)
    (htext : ∀ e ∈ entries, e.1.isText = true) (h : OverFields overrides) :
    -- there are settings iff every field's raw value is a value of the field,
    ((∃ s, load disk (some path) overrides = .ok s) ↔
      ∀ field : Field, ∃ v, field.checkValue (rawValue entries overrides field) = .valid v) ∧
    -- and then each field has the value that its own raw value is
    (∀ s, load disk (some path) overrides = .ok s ↔
      ∀ field : Field, field.checkValue (rawValue entries overrides field) =
        .valid (s.get field)) ∧
    -- else the faults of the fields come in the order of the fields, and name just those that fail
    (∀ e, load disk (some path) overrides = .error e →
      ∃ faults, e = .invalid faults ∧
        (faults = Field.all.flatMap fun field => field.faults (rawValue entries overrides field)) ∧
        ∀ field : Field, (∃ fault ∈ faults, fault.place.head? = some (.field field.name)) ↔
          ∀ v, field.checkValue (rawValue entries overrides field) ≠ .valid v) ∧
    -- what another file says of no field, or of a field that is overridden, changes nothing
    (∀ disk' path' entries', path' ≠ [] → fileEntries disk' path' = .ok entries' →
      (∀ e ∈ entries', e.1.isText = true) →
      (∀ field : Field, override? overrides field.name = none →
        Datum.entry? field.name entries' = Datum.entry? field.name entries) →
      load disk' (some path') overrides = load disk (some path) overrides) ∧
    -- and a flag that is not on the command line leaves the file as it is
    (∀ g : CommandLine.Generate,
      CommandLine.settingsPath disk g.root g.config = .ok (some path) →
      ∀ s, g.settings disk = .ok s ↔
        ∀ field : Field, field.checkValue ((g.given field).getD (field.fromFile entries)) =
          .valid (s.get field)) := by
  refine ⟨⟨?_, ?_⟩, fun s => load_eq_ok_iff hne hread htext h, ?_, ?_, ?_⟩
  · rintro ⟨s, hload⟩ field
    exact ⟨s.get field, (load_eq_ok_iff hne hread htext h).1 hload field⟩
  · intro hvalid
    choose v hv using hvalid
    obtain ⟨s, hs⟩ := exists_get v
    exact ⟨s, (load_eq_ok_iff hne hread htext h).2 fun field => by rw [hv, hs]⟩
  · intro e hload
    exact ⟨_, faults_of_load hne hread htext h hload, rfl, fun field => exists_fault_iff⟩
  · intro disk' path' entries' hne' hread' htext' hsame
    refine load_congr hne hread htext hne' hread' htext' h fun field => ?_
    rw [rawValue, rawValue]
    cases hgiven : override? overrides field.name with
    | none => rw [Field.fromFile, Field.fromFile, hsame field hgiven]
    | some d => rfl
  · intro g hpath s
    exact CommandLine.Generate.settings_eq_ok_iff hpath hne hread htext

/-- A file with a window that is none, which an override hides, and with a key of no field. An
override that is null leaves the suffixes of the file as they are. -/
theorem load_by_field_masked :
    let file := encodeUtf8 "window: 0\nsuffixes: [ts]\nextra: 1".toList
    let disk : Disk := { top := .dir [(['s'], .file file)] }
    let overrides := [(Field.window.name, .int 5), (Field.suffixes.name, .null)]
    let s : Settings := { window := 5 }
    load disk (some ['s']) [] = .error (.invalid [⟨[.field Field.window.name], .greaterThan⟩]) ∧
      load disk (some ['s']) overrides = .ok s ∧ OverFields overrides ∧
      ∃ entries, fileEntries disk ['s'] = .ok entries ∧ (∀ e ∈ entries, e.1.isText = true) ∧
        ∀ field : Field, field.checkValue (rawValue entries overrides field) =
          .valid (s.get field) := by
  intro file disk overrides s
  have hread : (fileEntries disk ['s']).toOption.any (·.all (·.1.isText)) = true := by
    decide +kernel
  have hfaulty : load disk (some ['s']) [] =
      .error (.invalid [⟨[.field Field.window.name], .greaterThan⟩]) := by decide +kernel
  have hload : load disk (some ['s']) overrides = .ok s := by decide +kernel
  have hfields : ([.window, .suffixes] : List Field).Nodup := by decide
  have h : OverFields overrides := .of_fields hfields rfl
  refine ⟨hfaulty, hload, h, ?_⟩
  cases hentries : fileEntries disk ['s'] with
  | error e =>
    rw [hentries] at hread
    cases hread
  | ok entries =>
    have htext : ∀ e ∈ entries, e.1.isText = true := by
      rw [hentries] at hread
      exact List.all_eq_true.1 hread
    have hvalid := (load_by_field (List.cons_ne_nil _ _) hentries htext h).2.1 s
    exact ⟨entries, rfl, htext, hvalid.1 hload⟩

end Settings
end EndpointManifest
