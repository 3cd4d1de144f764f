import EndpointManifest.Assoc
import EndpointManifest.FeatureName
import EndpointManifest.File.Disk
import EndpointManifest.Settings.Basic

/-!
The manifest: the endpoints of many spec files, grouped by feature in the order in which the
features first came.
-/

namespace EndpointManifest

open Text

inductive Warning where
  | noEndpoints (path : Text)
  | skipped (path : Text) (reason : Text)
  | noSpecFiles
  deriving DecidableEq, Repr

def Warning.message : Warning → Text
  | .noEndpoints path => path ++ ": no endpoints found".toList
  | .skipped path reason => "Skipped ".toList ++ path ++ ": ".toList ++ reason
  | .noSpecFiles => "No spec files found".toList

structure Manifest where
  features : List (Text × List Endpoint) := []
  scanned : Nat := 0
  included : Nat := 0
  warnings : List Warning := []
  deriving Repr

inductive SpecError where
  | unreadable (path : Text) (error : FileError)
  | url (error : Url.UrlError)
  deriving Repr, DecidableEq

def SpecError.message : SpecError → Text
  | .unreadable _ .nullInPath => FileError.nullInPath.message
  | .unreadable path error => "Cannot read ".toList ++ path ++ ": ".toList ++ error.message
  | .url error => error.message

/-- A file that cannot be read is passed over with a warning; every other failure ends the run. -/
def SpecError.isPassedOver : SpecError → Bool
  | .unreadable _ .nullInPath => false
  | .unreadable .. => true
  | .url _ => false

namespace Spec

/-- Reads the spec file at a path, which the result gives in its normal form. -/
def ofFile (disk : Disk) (reading : Reading) (path : Text) : Except SpecError Spec :=
  let p := Path.ofText path
  match disk.readText p p.toText with
  | .error e => .error (.unreadable path e)
  | .ok source =>
    match ofSource reading source with
    | .error e => .error (.url e)
    | .ok spec => .ok { spec with path := p.toText }

/-- The feature of a spec: its group, or else its file's name. -/
def featureKey (spec : Spec) (settings : Settings) : Text :=
  match spec.group with
  | some (c :: rest) => c :: rest
  | _ =>
    let base := (Path.ofText spec.path).name
    FeatureName.ofBase base settings.suffixes settings.humanizeFileNames

end Spec

namespace Manifest

def endpointCount (m : Manifest) : Nat :=
  m.features.foldr (fun feature count => feature.2.length + count) 0

def addSpec (settings : Settings) (m : Manifest) (spec : Spec) : Manifest :=
  if spec.endpoints.isEmpty then
    { m with scanned := m.scanned + 1, warnings := m.warnings ++ [.noEndpoints spec.path] }
  else
    { m with
      scanned := m.scanned + 1
      included := m.included + 1
      features := Assoc.modify (fun former => former.getD [] ++ spec.endpoints)
        (spec.featureKey settings) m.features }

def addFailure (m : Manifest) (path reason : Text) : Manifest :=
  { m with scanned := m.scanned + 1, warnings := m.warnings ++ [.skipped path reason] }

abbrev Outcome := Text × Except SpecError Spec

/-- Adds the outcomes in order, up to the first that ends the run. -/
def addOutcomes (settings : Settings) (m : Manifest) : List Outcome → Except SpecError Manifest
  | [] => .ok m
  | (_, .ok spec) :: rest => addOutcomes settings (m.addSpec settings spec) rest
  | (path, .error e) :: rest =>
    if e.isPassedOver then addOutcomes settings (m.addFailure path e.message) rest else .error e

def ofFiles (disk : Disk) (settings : Settings) (paths : List Text) : Except SpecError Manifest :=
  if paths.isEmpty then .ok { warnings := [.noSpecFiles] }
  else
    addOutcomes settings {} (paths.map fun path => (path, Spec.ofFile disk settings.reading path))

def toJson (m : Manifest) : Json :=
  .obj (m.features.map fun (key, endpoints) => (key, .arr (endpoints.map Endpoint.toJson)))

end Manifest
end EndpointManifest
