import EndpointManifest.CommandLine.Failure
import EndpointManifest.Discovery
import EndpointManifest.Manifest.Summary

/-!
Generating the manifest of a project. Files are written only after everything else has succeeded,
and a dry run writes none.
-/

namespace EndpointManifest.CommandLine

open Text

/-- What a call of `generate` asks for. Everything that is not given is left to the settings. -/
structure Generate where
  /-- The project's directory, from the root of the disk on. -/
  root : Path
  testsDir : Option Text := none
  outDir : Option Text := none
  config : Option Text := none
  withJson : Bool := false
  withTs : Bool := false
  workers : Option Int := none
  humanize : Bool := false
  dryRun : Bool := false
  verbose : Bool := false
  deriving Repr

/-- The settings file: the one asked for, or else the one that a project has. -/
def settingsPath (disk : Disk) (root : Path) (config : Option Text) :
    Except Failure (Option Text) :=
  match config with
  | some path => .ok (some path)
  | none =>
    match Settings.find disk root with
    | .ok found => .ok (found.map Path.toText)
    | .error e => .error (.unreachable e)

namespace Generate

/-- A flag that is not given overrides nothing. -/
def flag (given : Bool) : Datum := if given then .bool true else .null

def overrides (g : Generate) : List (Text × Datum) :=
  [("tests_dir".toList, (g.testsDir.map Datum.text).getD .null),
    ("out_dir".toList, (g.outDir.map Datum.text).getD .null),
    ("workers".toList, (g.workers.map Datum.int).getD .null),
    ("with_json".toList, flag g.withJson),
    ("with_ts".toList, flag g.withTs),
    ("humanize_file_names".toList, flag g.humanize)]

def settings (disk : Disk) (g : Generate) : Except Failure Settings := do
  let path ← settingsPath disk g.root g.config
  (Settings.load disk path g.overrides).mapError .settings

def specFiles (disk : Disk) (g : Generate) (s : Settings) : Except Failure (List Path) :=
  let path := g.root.child s.testsDir
  match Discovery.specFiles disk path s.suffixes with
  | .ok files => .ok files
  | .error .notADirectory => .error (.notADirectory path.toText)
  | .error (.unreachable e) => .error (.unreachable e)
  | .error .tooDeep => .error .tooDeep

def noSpecFiles (g : Generate) (s : Settings) : Text :=
  "No ".toList ++ join ['/'] s.suffixes ++ " spec files found under ".toList ++
    (g.root.child s.testsDir).toText

def collect (disk : Disk) (g : Generate) : Except Failure (Settings × Option Manifest) := do
  let s ← g.settings disk
  match ← g.specFiles disk s with
  | [] => return (s, none)
  | files =>
    let m ← (Manifest.ofFiles disk s (files.map Path.toText)).mapError .spec
    return (s, some m)

/-- A written file as the report names it: below the root by its way from there. -/
def shown (g : Generate) (path : Path) : Text := ((path.relativeTo? g.root).getD path).toText

def report (g : Generate) (m : Manifest) (written : List Path) : Text :=
  "✓ Generated ".toList ++ ofNat m.endpointCount ++ " endpoints across ".toList ++
    ofNat m.features.length ++ " features\n".toList ++
    written.flatMap fun path => "  - ".toList ++ g.shown path ++ ['\n']

/-- What follows the report on demand: an empty line and the table. -/
def appendix (g : Generate) (m : Manifest) : Text × Option Failure :=
  if g.verbose then
    match m.grid with
    | .ok grid => ('\n' :: grid.render, none)
    | .error e => (['\n'], some (.markup e))
  else ([], none)

def publish (disk : Disk) (g : Generate) (s : Settings) (m : Manifest) : Outcome :=
  let warnings := m.warnings.map Warning.message
  match Output.write disk m.toJson (g.root.child s.outDir).toText s.withJson s.withTs with
  | (disk, .error e) => { disk, warnings, failure := some (.unwritable e) }
  | (disk, .ok written) =>
    let (appended, failure) := g.appendix m
    { disk, output := withoutControls (g.report m written) ++ appended, warnings, failure }

def run (disk : Disk) (g : Generate) : Outcome :=
  match g.collect disk with
  | .error failure => { disk, failure := some failure }
  | .ok (s, none) => { disk, warnings := [g.noSpecFiles s] }
  | .ok (s, some m) =>
    if g.dryRun then { disk, output := withoutControls (m.summary ++ ['\n']) }
    else g.publish disk s m

end Generate
end EndpointManifest.CommandLine
