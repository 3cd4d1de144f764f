import EndpointManifest.Schema.Check
import EndpointManifest.Spec

/-!
The settings of a run. Each field is checked by itself: its value fits, or a fault says why not, or
it is absent and has its default.
-/

namespace EndpointManifest

open Text

structure Settings where
  testsDir : Text := "tests/endpoint-tests".toList
  outDir : Text := "perf/k6/sources".toList
  suffixes : List Text := [".ts".toList]
  receivers : List Text :=
    ["request", "apiContext", "api", "client", "agent", "axios"].map String.toList
  window : Nat := 600
  workers : Nat := 1
  withJson : Bool := false
  withTs : Bool := false
  humanizeFileNames : Bool := false
  deriving DecidableEq, Repr

namespace Settings

inductive Field where
  | testsDir | outDir | suffixes | receivers | window | workers | withJson | withTs
  | humanizeFileNames
  deriving DecidableEq, Repr

def Field.name : Field → Text
  | .testsDir => "tests_dir".toList
  | .outDir => "out_dir".toList
  | .suffixes => "suffixes".toList
  | .receivers => "receivers".toList
  | .window => "window".toList
  | .workers => "workers".toList
  | .withJson => "with_json".toList
  | .withTs => "with_ts".toList
  | .humanizeFileNames => "humanize_file_names".toList

def intAbove (bound : Int) (kind : FaultKind) (d : Datum) : Except FaultKind Nat := do
  let n ← d.toInt
  if bound < n then return n.toNat else throw kind

def withPoint (suffix : Text) : Text := if startsWith ['.'] suffix then suffix else '.' :: suffix

/-- The check of a field, or its default when there is no raw value. -/
def check {α : Type} (raw : Field → Option Datum) (field : Field) (default : α)
    (checkValue : Datum → Checked α) : Checked α :=
  match raw field with
  | none => .valid default
  | some d => (checkValue d).under (.field field.name)

/-- Checks the raw values of the fields. The faults come in the order of the fields. -/
def ofRaw (raw : Field → Option Datum) : Checked Settings :=
  let default : Settings := {}
  Settings.mk
    <$> check raw .testsDir default.testsDir (.ofExcept ·.toText)
    <*> check raw .outDir default.outDir (.ofExcept ·.toText)
    <*> check raw .suffixes default.suffixes (fun d => List.map withPoint <$> d.toTexts)
    <*> check raw .receivers default.receivers Datum.toTexts
    <*> check raw .window default.window (.ofExcept <| intAbove 0 .greaterThan ·)
    <*> check raw .workers default.workers (.ofExcept <| intAbove 0 .greaterThanEqual ·)
    <*> check raw .withJson default.withJson (.ofExcept ·.toBool)
    <*> check raw .withTs default.withTs (.ofExcept ·.toBool)
    <*> check raw .humanizeFileNames default.humanizeFileNames (.ofExcept ·.toBool)

/-- Checks a mapping; keys that name no field are passed over. -/
def ofEntries (entries : List (Datum × Datum)) : Checked Settings :=
  ofRaw fun field => Datum.entry? field.name entries

def reading (s : Settings) : Reading := ⟨s.receivers, s.window⟩

end Settings
end EndpointManifest
