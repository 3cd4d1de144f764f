import EndpointManifest.File.Disk
import EndpointManifest.Settings.Basic
import EndpointManifest.Yaml.Value

/-!
Loading settings: a YAML file, if there is one, with overrides that take precedence field by field.
-/

namespace EndpointManifest.Settings

open Text

inductive LoadError where
  | malformed (path : Text)
  | unreadable (path : Text) (error : FileError)
  | notAMapping (path : Text)
  | invalid (faults : List Fault)
  /-- A scalar with the form of its tag and no value. -/
  | noValue (error : Yaml.Error)
  /-- A mapping with a key that is no text has no fields. -/
  | keyNotText
  /-- An override would give the path a second time. -/
  | pathGivenTwice
  deriving Repr, DecidableEq

/-- The file's text cannot be read at all; this and a scalar without value are not reported as
errors of the settings, nor is a call that makes no sense. -/
def LoadError.isReported : LoadError → Bool
  | .unreadable _ (.undecodable _) | .unreadable _ .nullInPath | .noValue _ | .keyNotText
  | .pathGivenTwice => false
  | _ => true

/-- The message, in which `details` stands for what a reader of YAML or the checks say. -/
def LoadError.message (details : Text) : LoadError → Text
  | .malformed path => "Invalid YAML in ".toList ++ path ++ ": ".toList ++ details
  | .unreadable path (.refused refusal name) =>
    "Cannot read settings file ".toList ++ path ++ ": ".toList ++
      (FileError.refused refusal name).message
  | .unreadable _ error => error.message
  | .notAMapping path => "Settings file ".toList ++ path ++ " must contain a mapping".toList
  | .invalid _ => "Invalid settings: ".toList ++ details
  | .noValue error => error.message
  | .keyNotText => "keywords must be strings".toList
  | .pathGivenTwice => "got multiple values for argument 'path'".toList

def LoadError.details : LoadError → Text
  | .malformed _ => "not one well-formed document".toList
  | .invalid faults => join "; ".toList (faults.map Fault.toText)
  | _ => []

/-- The checks look at the values of fields and at the items of lists among them. -/
def fieldDepth : Nat := 2

/-- The entries of a settings file. An empty document has none. -/
def fileEntries (disk : Disk) (path : Text) : Except LoadError (List (Datum × Datum)) := do
  let text ← match disk.readTextInPieces (.verbatim path) path with
    | .ok t => pure t
    | .error e => throw (.unreadable path e)
  match Yaml.read fieldDepth text with
  | .error .malformed => throw (.malformed path)
  | .error e => throw (.noValue e)
  | .ok .null => return []
  | .ok (.mapping entries) => return entries
  | .ok _ => throw (.notAMapping path)

/-- Overrides that are not null. -/
def effective (overrides : List (Text × Datum)) : List (Datum × Datum) :=
  (overrides.filter fun (_, d) => match d with | .null => false | _ => true).map fun (name, d) =>
    (.text name, d)

def ofEntriesWith (entries : List (Datum × Datum)) (overrides : List (Text × Datum)) :
    Except LoadError Settings :=
  if entries.any fun (key, _) => !key.isText then .error .keyNotText
  else match ofEntries (entries ++ effective overrides) with
    | .valid s => .ok s
    | .faulty faults => .error (.invalid faults)

/-- The settings from the file at a path, if a path is given, and overrides. -/
def load (disk : Disk) (path : Option Text) (overrides : List (Text × Datum)) :
    Except LoadError Settings := do
  if overrides.any fun (name, _) => name = "path".toList then throw .pathGivenTwice
  let entries ← match path with
    | none | some [] => pure []
    | some path => fileEntries disk path
  ofEntriesWith entries overrides

def fileNames : List Text :=
  ["k6endpoints.yaml", "k6endpoints.yml", ".k6endpoints.yaml"].map String.toList

/-- The settings file of the project in a directory: the first of the names that is a file. -/
def find (disk : Disk) (root : Path) : Except FileError (Option Path) :=
  go (fileNames.map root.child)
where
  go : List Path → Except FileError (Option Path)
    | [] => .ok none
    | path :: rest => do
      match ← disk.look path with
      | some (.file _) => return some path
      | _ => go rest

end EndpointManifest.Settings
