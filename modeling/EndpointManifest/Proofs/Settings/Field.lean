import EndpointManifest.Proofs.Schema.Fault
import EndpointManifest.Settings.Basic

/-! The settings field by field. Each field has a type, a default and a check of its own. The
settings are valid exactly when every field's raw value is, each field then has the value that its
check gives, and the faults are those of the fields one after the other. -/

namespace EndpointManifest.Settings

open Text

namespace Field

def all : List Field :=
  [.testsDir, .outDir, .suffixes, .receivers, .window, .workers, .withJson, .withTs,
    .humanizeFileNames]

abbrev Value : Field → Type
  | .testsDir | .outDir => Text
  | .suffixes | .receivers => List Text
  | .window | .workers => Nat
  | .withJson | .withTs | .humanizeFileNames => Bool

end Field

def get (s : Settings) : (field : Field) → field.Value
  | .testsDir => s.testsDir
  | .outDir => s.outDir
  | .suffixes => s.suffixes
  | .receivers => s.receivers
  | .window => s.window
  | .workers => s.workers
  | .withJson => s.withJson
  | .withTs => s.withTs
  | .humanizeFileNames => s.humanizeFileNames

namespace Field

def toDatum : (field : Field) → field.Value → Datum
  | .testsDir, (t : Text) | .outDir, (t : Text) => .text t
  | .suffixes, (ts : List Text) | .receivers, (ts : List Text) => .list (ts.map .text)
  | .window, (n : Nat) | .workers, (n : Nat) => .int n
  | .withJson, (b : Bool) | .withTs, (b : Bool) | .humanizeFileNames, (b : Bool) => .bool b

def default (field : Field) : Datum := field.toDatum (({} : Settings).get field)

def checkValue : (field : Field) → Datum → Checked field.Value
  | .testsDir, d | .outDir, d => .ofExcept d.toText
  | .suffixes, d => (List.map withPoint <$> d.toTexts : Checked (List Text))
  | .receivers, d => d.toTexts
  | .window, d => .ofExcept (intAbove 0 .greaterThan d)
  | .workers, d => .ofExcept (intAbove 0 .greaterThanEqual d)
  | .withJson, d | .withTs, d | .humanizeFileNames, d => .ofExcept d.toBool

def faults (field : Field) (d : Datum) : List Fault :=
  ((field.checkValue d).under (.field field.name)).faults

theorem mem_all (field : Field) : field ∈ all := by cases field <;> decide

theorem name_injective : Function.Injective name := by
  intro field other h
  revert h
  cases field <;> cases other <;> decide

/-- Every default passes its own check. -/
theorem checkValue_default (field : Field) :
    field.checkValue field.default = .valid (({} : Settings).get field) := by
  cases field <;> rfl

theorem checkValue_decides (field : Field) (d : Datum) : (field.checkValue d).Decides := by
  have htexts : d.toTexts.Decides := by
    unfold Datum.toTexts
    split
    · exact Checked.decides_list (fun _ => Checked.decides_ofExcept _) 0 _
    · exact fun h => nomatch h
  cases field
  case suffixes => exact htexts.map _
  case receivers => exact htexts
  all_goals exact Checked.decides_ofExcept _

theorem head?_of_mem_faults {field : Field} {d : Datum} {fault : Fault}
    (h : fault ∈ field.faults d) : fault.place.head? = some (.field field.name) := by
  obtain ⟨inner, _, rfl⟩ := Checked.mem_faults_under.1 h
  rfl

/-- A field has faults iff its raw value is none of its values. -/
theorem faults_ne_nil_iff {field : Field} {d : Datum} :
    field.faults d ≠ [] ↔ ∀ v, field.checkValue d ≠ .valid v := by
  rw [faults, ((field.checkValue_decides d).under _).faults_ne_nil_iff]
  simp only [ne_eq, Checked.under_eq_valid]

end Field

def checkField (raw : Field → Option Datum) (field : Field) : Checked field.Value :=
  check raw field (({} : Settings).get field) field.checkValue

variable {raw : Field → Option Datum} {s : Settings}

theorem checkField_eq (raw : Field → Option Datum) (field : Field) :
    checkField raw field =
      (field.checkValue ((raw field).getD field.default)).under (.field field.name) := by
  rw [checkField, check]
  cases raw field with
  | none => rw [Option.getD_none, field.checkValue_default, Checked.under_valid]
  | some d => rfl

theorem ofRaw_eq (raw : Field → Option Datum) :
    ofRaw raw =
      (Settings.mk <$> checkField raw .testsDir <*> checkField raw .outDir
        <*> checkField raw .suffixes <*> checkField raw .receivers <*> checkField raw .window
        <*> checkField raw .workers <*> checkField raw .withJson <*> checkField raw .withTs
        <*> checkField raw .humanizeFileNames : Checked Settings) := rfl

theorem ofRaw_eq_valid :
    ofRaw raw = .valid s ↔ ∀ field : Field, checkField raw field = .valid (s.get field) := by
  rw [ofRaw_eq]
  constructor
  · intro h field
    obtain ⟨_, _, h₁, hhumanize, rfl⟩ := Checked.seq_eq_valid.1 h
    obtain ⟨_, _, h₂, hwithTs, rfl⟩ := Checked.seq_eq_valid.1 h₁
    obtain ⟨_, _, h₃, hwithJson, rfl⟩ := Checked.seq_eq_valid.1 h₂
    obtain ⟨_, _, h₄, hworkers, rfl⟩ := Checked.seq_eq_valid.1 h₃
    obtain ⟨_, _, h₅, hwindow, rfl⟩ := Checked.seq_eq_valid.1 h₄
    obtain ⟨_, _, h₆, hreceivers, rfl⟩ := Checked.seq_eq_valid.1 h₅
    obtain ⟨_, _, h₇, hsuffixes, rfl⟩ := Checked.seq_eq_valid.1 h₆
    obtain ⟨_, _, h₈, houtDir, rfl⟩ := Checked.seq_eq_valid.1 h₇
    obtain ⟨_, htestsDir, rfl⟩ := Checked.map_eq_valid.1 h₈
    cases field <;> assumption
  · intro h
    rw [h .testsDir, h .outDir, h .suffixes, h .receivers, h .window, h .workers, h .withJson,
      h .withTs, h .humanizeFileNames]
    rfl

/-- The settings are those whose fields each have the value that their own raw value gives. -/
theorem ofRaw_eq_valid_iff_checkValue :
    ofRaw raw = .valid s ↔
      ∀ field : Field, field.checkValue ((raw field).getD field.default) = .valid (s.get field) := by
  simp only [ofRaw_eq_valid, checkField_eq, Checked.under_eq_valid]

/-- The faults are those of the fields, one field after the other. -/
theorem faults_ofRaw (raw : Field → Option Datum) :
    (ofRaw raw).faults =
      Field.all.flatMap fun field => field.faults ((raw field).getD field.default) := by
  simp only [ofRaw_eq, Checked.faults_seq, Checked.faults_map, checkField_eq]
  simp only [Field.all, Field.faults, List.flatMap_cons, List.flatMap_nil, List.append_nil,
    List.append_assoc]

end EndpointManifest.Settings
