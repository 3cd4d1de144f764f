import EndpointManifest.Proofs.Settings.Field
import EndpointManifest.Proofs.Settings.Load

/-! Which errors of loading settings are reported as such. A file that is there and yet gives no
text, a scalar that has no value and a key that is no text are errors of another kind. -/

namespace EndpointManifest

open Text

theorem Disk.readBytes_eq_error {disk : Disk} {path : Path} {name : Text} {e : FileError}
    (h : disk.readBytes path name = .error e) :
    Disk.hasNull path = true ∧ e = .nullInPath ∨ ∃ refusal, e = .refused refusal name := by
  unfold Disk.readBytes at h
  split at h
  · next hnull => exact .inl ⟨hnull, (Except.error.inj h).symm⟩
  · split at h
    · exact .inr ⟨_, (Except.error.inj h).symm⟩
    · exact .inr ⟨_, (Except.error.inj h).symm⟩
    · cases h

theorem Disk.readTextInPieces_of_bytes {disk : Disk} {path : Path} {name : Text}
    {octets : List UInt8} (h : disk.readBytes path name = .ok octets) :
    disk.readTextInPieces path name = ((decodeUtf8 octets).map normalizeNewlines).mapError
      fun e => .undecodable (e.inPieces pieceSize octets) := by
  rw [readTextInPieces, h]
  simp only [bind, Except.bind, decodeUtf8InPieces]
  cases decodeUtf8 octets <;> rfl

namespace Settings

structure WithinBounds (s : Settings) : Prop where
  window : 0 < s.window
  workers : 1 ≤ s.workers
  suffixes : ∀ suffix ∈ s.suffixes, startsWith ['.'] suffix = true

/-- A failure that is no error of the settings. -/
def FailsUnreported {α : Type} (x : Except LoadError α) : Prop :=
  ∃ e, x = .error e ∧ e.isReported = false

/-- A settings file that is refused, but not with an error of the settings. -/
inductive FileUnreported (disk : Disk) (path : Text) : Prop where
  | nullInPath (h : Disk.hasNull (.verbatim path) = true)
  | undecodable {octets : List UInt8} {e : Utf8Error}
      (hread : disk.readBytes (.verbatim path) path = .ok octets) (h : decodeUtf8 octets = .error e)
  | noValue {octets : List UInt8} {text : Text} {e : Yaml.Error}
      (hread : disk.readBytes (.verbatim path) path = .ok octets)
      (htext : decodeUtf8 octets = .ok text)
      (h : Yaml.read fieldDepth (normalizeNewlines text) = .error e) (hne : e ≠ .malformed)
  | keyNotText {octets : List UInt8} {text : Text} {entries : List (Datum × Datum)}
      (hread : disk.readBytes (.verbatim path) path = .ok octets)
      (htext : decodeUtf8 octets = .ok text)
      (h : Yaml.read fieldDepth (normalizeNewlines text) = .ok (.mapping entries))
      (hkey : ∃ e ∈ entries, e.1.isText = false)

inductive Unreported (disk : Disk) (path : Option Text) (overrides : List (Text × Datum)) : Prop where
  | pathGivenTwice (h : ∃ override ∈ overrides, override.1 = "path".toList)
  | file {p : Text} (hpath : path = some p) (hne : p ≠ []) (h : FileUnreported disk p)

def entriesOfData (path : Text) : Except Yaml.Error Datum → Except LoadError (List (Datum × Datum))
  | .error .malformed => .error (.malformed path)
  | .error e => .error (.noValue e)
  | .ok .null => .ok []
  | .ok (.mapping entries) => .ok entries
  | .ok _ => .error (.notAMapping path)

variable {disk : Disk} {path : Text} {entries : List (Datum × Datum)}
  {overrides : List (Text × Datum)} {s : Settings}

theorem fileEntries_of_unreadable {e : FileError}
    (h : disk.readBytes (.verbatim path) path = .error e) :
    fileEntries disk path = .error (.unreadable path e) := by
  rw [fileEntries, Disk.readTextInPieces, h]
  rfl

theorem fileEntries_of_undecodable {octets : List UInt8} {e : Utf8Error}
    (hread : disk.readBytes (.verbatim path) path = .ok octets) (h : decodeUtf8 octets = .error e) :
    fileEntries disk path =
      .error (.unreadable path (.undecodable (e.inPieces Disk.pieceSize octets))) := by
  rw [fileEntries, Disk.readTextInPieces_of_bytes hread, h]
  rfl

theorem fileEntries_of_text {octets : List UInt8} {text : Text}
    (hread : disk.readBytes (.verbatim path) path = .ok octets) (h : decodeUtf8 octets = .ok text) :
    fileEntries disk path = entriesOfData path (Yaml.read fieldDepth (normalizeNewlines text)) := by
  rw [fileEntries, Disk.readTextInPieces_of_bytes hread, h]
  rfl

theorem failsUnreported_error {α : Type} {e : LoadError} :
    FailsUnreported (.error e : Except LoadError α) ↔ e.isReported = false := by
  simp [FailsUnreported]

theorem not_failsUnreported_ok {α : Type} (a : α) : ¬ FailsUnreported (.ok a) := by
  simp [FailsUnreported]

theorem ofEntriesWith_unreported_iff :
    FailsUnreported (ofEntriesWith entries overrides) ↔ ∃ e ∈ entries, e.1.isText = false := by
  by_cases hkey : ∃ e ∈ entries, e.1.isText = false
  · rw [ofEntriesWith_of_keyNotText hkey]
    exact iff_of_true (failsUnreported_error.2 rfl) hkey
  · rw [ofEntriesWith_of_isText (by simpa using hkey)]
    refine iff_of_false ?_ hkey
    cases ofEntries (entries ++ effective overrides) with
    | valid s => exact not_failsUnreported_ok s
    | faulty faults => exact fun h => nomatch failsUnreported_error.1 h

theorem ofEntriesWith_nil : ¬ FailsUnreported (ofEntriesWith [] overrides) := by
  rw [ofEntriesWith_unreported_iff]
  rintro ⟨e, he, _⟩
  cases he

/-- Of what a document says only scalars without value and keys that are no text go unreported. -/
theorem entriesOfData_unreported_iff {data : Except Yaml.Error Datum} :
    FailsUnreported (entriesOfData path data >>= (ofEntriesWith · overrides)) ↔
      (∃ e, data = .error e ∧ e ≠ .malformed) ∨
        ∃ entries, data = .ok (.mapping entries) ∧ ∃ e ∈ entries, e.1.isText = false := by
  rcases data with e | d
  · cases e <;> simp [entriesOfData, bind, Except.bind, failsUnreported_error, LoadError.isReported]
  · cases d
    case null => simpa [entriesOfData, bind, Except.bind] using ofEntriesWith_nil
    case mapping entries =>
      simp [entriesOfData, bind, Except.bind, ofEntriesWith_unreported_iff]
    all_goals simp [entriesOfData, bind, Except.bind, failsUnreported_error, LoadError.isReported]

theorem fileEntries_unreported_iff :
    FailsUnreported (fileEntries disk path >>= (ofEntriesWith · overrides)) ↔
      FileUnreported disk path := by
  cases hread : disk.readBytes (.verbatim path) path with
  | error e =>
    rw [fileEntries_of_unreadable hread]
    refine failsUnreported_error.trans ⟨fun h => ?_, ?_⟩
    · obtain ⟨hnull, _⟩ | ⟨refusal, rfl⟩ := Disk.readBytes_eq_error hread
      · exact .nullInPath hnull
      · cases h
    · rintro (hnull | ⟨hread', _⟩ | ⟨hread', _⟩ | ⟨hread', _⟩)
      · rw [Disk.readBytes, if_pos hnull] at hread
        obtain rfl := Except.error.inj hread
        rfl
      all_goals cases hread.symm.trans hread'
  | ok octets =>
    have hnull : Disk.hasNull (.verbatim path) = false := by
      rw [Disk.readBytes] at hread
      split at hread
      · cases hread
      · next hnull => simpa using hnull
    cases htext : decodeUtf8 octets with
    | error e =>
      rw [fileEntries_of_undecodable hread htext]
      exact iff_of_true (failsUnreported_error.2 rfl) (.undecodable hread htext)
    | ok text =>
      rw [fileEntries_of_text hread htext, entriesOfData_unreported_iff]
      constructor
      · rintro (⟨e, h, hne⟩ | ⟨entries, h, hkey⟩)
        · exact .noValue hread htext h hne
        · exact .keyNotText hread htext h hkey
      · rintro (hnull' | ⟨hread', h⟩ | ⟨hread', htext', h, hne⟩ | ⟨hread', htext', h, hkey⟩)
        · rw [hnull] at hnull'
          cases hnull'
        all_goals obtain rfl := Except.ok.inj (hread.symm.trans hread')
        · cases htext.symm.trans h
        all_goals obtain rfl := Except.ok.inj (htext.symm.trans htext')
        · exact .inl ⟨_, h, hne⟩
        · exact .inr ⟨_, h, hkey⟩

theorem givenEntries_unreported_iff {path : Option Text} :
    FailsUnreported (givenEntries disk path >>= (ofEntriesWith · overrides)) ↔
      ∃ p, path = some p ∧ p ≠ [] ∧ FileUnreported disk p := by
  rcases path with _ | _ | ⟨c, p⟩
  · exact iff_of_false ofEntriesWith_nil (by simp)
  · exact iff_of_false ofEntriesWith_nil (by simp)
  · rw [givenEntries_some (List.cons_ne_nil _ _), fileEntries_unreported_iff]
    simp

theorem load_unreported_iff {path : Option Text} :
    FailsUnreported (load disk path overrides) ↔ Unreported disk path overrides := by
  rw [load_eq]
  split
  · next htwice => exact iff_of_true (failsUnreported_error.2 rfl) (.pathGivenTwice htwice)
  · next htwice =>
    rw [givenEntries_unreported_iff]
    constructor
    · rintro ⟨p, hpath, hne, h⟩
      exact .file hpath hne h
    · rintro (h | ⟨hpath, hne, h⟩)
      · exact absurd h htwice
      · exact ⟨_, hpath, hne, h⟩

theorem intAbove_eq_ok {bound : Int} {kind : FaultKind} {d : Datum} {n : Nat}
    (h : intAbove bound kind d = .ok n) : bound < n := by
  unfold intAbove at h
  obtain ⟨k, _, h⟩ := bind_eq_ok.1 h
  split at h
  · obtain rfl : k.toNat = n := Except.ok.inj h
    omega
  · cases h

theorem startsWith_withPoint (suffix : Text) : startsWith ['.'] (withPoint suffix) = true := by
  unfold withPoint
  split
  · assumption
  · rfl

theorem withinBounds_of_ofRaw {raw : Field → Option Datum} (h : ofRaw raw = .valid s) :
    s.WithinBounds := by
  have hfields := ofRaw_eq_valid_iff_checkValue.1 h
  refine ⟨?_, ?_, ?_⟩
  · have hwindow := intAbove_eq_ok (Checked.ofExcept_eq_valid.1 (hfields .window))
    exact Int.natCast_pos.1 hwindow
  · have hworkers := intAbove_eq_ok (Checked.ofExcept_eq_valid.1 (hfields .workers))
    exact Int.natCast_pos.1 hworkers
  · obtain ⟨given, _, hgiven⟩ := Checked.map_eq_valid.1 (hfields .suffixes)
    change given.map withPoint = s.suffixes at hgiven
    rw [← hgiven]
    intro suffix hsuffix
    obtain ⟨suffix, _, rfl⟩ := List.mem_map.1 hsuffix
    exact startsWith_withPoint suffix

theorem withinBounds_of_load {path : Option Text} (h : load disk path overrides = .ok s) :
    s.WithinBounds := by
  rw [load_eq] at h
  split at h
  · cases h
  · obtain ⟨entries, _, h⟩ := bind_eq_ok.1 h
    exact withinBounds_of_ofRaw (ofEntriesWith_eq_ok.1 h).2

/-- Loading gives settings within their bounds or fails with an error of the settings, but for the
failures that are not reported as such. -/
theorem load_reported_iff (disk : Disk) (path : Option Text) (overrides : List (Text × Datum)) :
    ((∃ s, load disk path overrides = .ok s ∧ s.WithinBounds) ∨
        ∃ e, load disk path overrides = .error e ∧ e.isReported = true) ↔
      ¬ Unreported disk path overrides := by
  rw [← load_unreported_iff, FailsUnreported]
  cases hload : load disk path overrides with
  | ok s =>
    have hbounds := withinBounds_of_load hload
    simp [hbounds]
  | error e => simp

/-- A byte that begins no character. -/
theorem load_reported_iff_noText :
    let disk : Disk := { top := .dir [("k.yaml".toList, .file [0xFF])] }
    ¬ ((∃ s, load disk (some "k.yaml".toList) [] = .ok s ∧ s.WithinBounds) ∨
        ∃ e, load disk (some "k.yaml".toList) [] = .error e ∧ e.isReported = true) := by
  intro disk
  have hload : (load disk (some "k.yaml".toList) []) =
      .error (.unreadable "k.yaml".toList (.undecodable ⟨0, 0xFF, 1, .invalidStart⟩)) := by
    decide +kernel
  rw [hload]
  rintro (⟨s, h, _⟩ | ⟨e, h, hreported⟩)
  · cases h
  · obtain rfl := Except.error.inj h
    cases hreported

end Settings
end EndpointManifest
