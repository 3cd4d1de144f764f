import EndpointManifest.Proofs.Settings.Precedence

/-! What a truth value among the settings comes from: the flag on the command line, or else the
settings file, or else nothing. -/

namespace EndpointManifest

open Text

namespace CommandLine.Generate

/-- The settings file gives the field a value that counts as true. -/
def FileSays (disk : Disk) (g : Generate) (field : Settings.Field) : Prop :=
  ∃ path entries d, settingsPath disk g.root g.config = .ok (some path) ∧ path ≠ [] ∧
    Settings.fileEntries disk path = .ok entries ∧ Datum.entry? field.name entries = some d ∧
      d.toBool = .ok true

variable {disk : Disk} {g : Generate} {s : Settings}

/-- What the settings are made from: the entries of the settings file, if there is one, then what
the command line gives. -/
theorem settings_eq_ok (h : g.settings disk = .ok s) :
    ∃ path entries, settingsPath disk g.root g.config = .ok path ∧
      Settings.givenEntries disk path = .ok entries ∧
      Settings.ofEntries (entries ++ Settings.effective g.overrides) = .valid s := by
  unfold settings at h
  obtain ⟨path, hpath, h⟩ := bind_eq_ok.1 h
  have h := mapError_eq_ok.1 h
  rw [Settings.load_eq] at h
  split at h
  · cases h
  · obtain ⟨entries, hentries, h⟩ := bind_eq_ok.1 h
    exact ⟨path, entries, hpath, hentries, (Settings.ofEntriesWith_eq_ok.1 h).2⟩

/-- A flag comes before the settings file, and without either the setting is off. -/
theorem flag_iff {field : Settings.Field} {given b : Bool} {entries : List (Datum × Datum)}
    (hflag : g.given field = if given then some (.bool true) else none)
    (hdefault : field.default = .bool false)
    (h : (Settings.rawValue entries g.overrides field).toBool = .ok b) :
    b = true ↔ given = true ∨ ∃ d, Datum.entry? field.name entries = some d ∧ d.toBool = .ok true := by
  rw [Settings.rawValue, override?_overrides, hflag] at h
  cases given with
  | true =>
    obtain rfl : true = b := Except.ok.inj h
    simp
  | false =>
    rw [if_neg Bool.false_ne_true, Option.getD_none, Settings.Field.fromFile, hdefault] at h
    cases hentry : Datum.entry? field.name entries with
    | none =>
      rw [hentry] at h
      obtain rfl : false = b := Except.ok.inj h
      simp
    | some d =>
      rw [hentry] at h
      have hbool : d.toBool = .ok b := h
      simp [hbool]

theorem fileSays_iff {path : Option Text} {entries : List (Datum × Datum)} {field : Settings.Field}
    (hpath : settingsPath disk g.root g.config = .ok path)
    (hentries : Settings.givenEntries disk path = .ok entries) :
    g.FileSays disk field ↔
      ∃ d, Datum.entry? field.name entries = some d ∧ d.toBool = .ok true := by
  constructor
  · rintro ⟨p, entries', d, hp, hne, hread, hd, htrue⟩
    obtain rfl := Except.ok.inj (hpath.symm.trans hp)
    rw [Settings.givenEntries_some hne] at hentries
    obtain rfl := Except.ok.inj (hentries.symm.trans hread)
    exact ⟨d, hd, htrue⟩
  · rintro ⟨d, hd, htrue⟩
    by_cases hfile : ∃ p, path = some p ∧ p ≠ []
    · obtain ⟨p, rfl, hne⟩ := hfile
      rw [Settings.givenEntries_some hne] at hentries
      exact ⟨p, entries, d, hpath, hne, hentries, hd, htrue⟩
    · rw [Settings.givenEntries_of_none (by simpa using hfile)] at hentries
      obtain rfl := Except.ok.inj hentries
      cases hd

/-- A file is added to the manifest by its flag, or else by the settings file. -/
theorem flags_iff (h : g.settings disk = .ok s) :
    (s.withJson = true ↔ g.withJson = true ∨ g.FileSays disk .withJson) ∧
      (s.withTs = true ↔ g.withTs = true ∨ g.FileSays disk .withTs) := by
  obtain ⟨path, entries, hpath, hentries, hvalid⟩ := settings_eq_ok h
  have hfields := (Settings.ofEntries_eq_valid g.overFields_overrides).1 hvalid
  rw [fileSays_iff hpath hentries, fileSays_iff hpath hentries]
  exact ⟨flag_iff rfl rfl (Checked.ofExcept_eq_valid.1 (hfields .withJson)),
    flag_iff rfl rfl (Checked.ofExcept_eq_valid.1 (hfields .withTs))⟩

end CommandLine.Generate
end EndpointManifest
