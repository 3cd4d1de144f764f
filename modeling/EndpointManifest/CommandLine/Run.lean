import EndpointManifest.CommandLine.Inspect
import EndpointManifest.CommandLine.Value

/-!
The program as a whole: a command line and a disk give an outcome. Without a command the manifest is
generated as the settings say.

Options are read first, then their values are checked in the order in which the options first
appear, then the arguments. A request for help or for the version comes before all checks of values.
-/

namespace EndpointManifest.CommandLine

open Text

def programName : Text := "k6endpoints".toList

def version : Text := "0.1.0".toList

def helpText {ι : Type} (call : Text) (switches : List (Switch ι)) : Text :=
  "Usage: ".toList ++ programName ++ ' ' :: call ++ "\n\nOptions:\n".toList ++
    switches.flatMap fun switch =>
      "  ".toList ++ (switch.short.map fun c => ['-', c, ',', ' ']).getD [] ++ switch.long ++
        (if switch.takesValue then " VALUE\n" else "\n").toList

def printed (disk : Disk) (output : Text) : Outcome := { disk, output }

def failed (disk : Disk) (failure : Failure) : Outcome := { disk, failure := some failure }

inductive GenerateOption where
  | root | testsDir | outDir | config | withJson | withTs | all | workers | humanize | dryRun
  | verbose | help
  deriving DecidableEq, Repr

def generateSwitches : List (Switch GenerateOption) :=
  [{ option := .root, long := "--root".toList, short := 'r', takesValue := true },
    { option := .testsDir, long := "--tests-dir".toList, short := 't', takesValue := true },
    { option := .outDir, long := "--out-dir".toList, short := 'o', takesValue := true },
    { option := .config, long := "--config".toList, short := 'c', takesValue := true },
    { option := .withJson, long := "--with-json".toList },
    { option := .withTs, long := "--with-ts".toList },
    { option := .all, long := "--all".toList },
    { option := .workers, long := "--workers".toList, short := 'w', takesValue := true },
    { option := .humanize, long := "--humanize".toList },
    { option := .dryRun, long := "--dry-run".toList },
    { option := .verbose, long := "--verbose".toList, short := 'v' },
    { option := .help, long := "--help".toList }]

def checkGenerate (disk : Disk) (option : GenerateOption) (value : Text) : Except Failure Unit :=
  match option with
  | .root => (directory disk .root value).map fun _ => ()
  | .config => (file disk .config value).map fun _ => ()
  | .workers => (positive .workers value).map fun _ => ()
  | _ => .ok ()

def refuseExtra (arguments : List Text) : Except Failure Unit :=
  if arguments.isEmpty then .ok () else .error (.usage (.extraArguments arguments))

def Generate.ofGiven (disk : Disk) (g : Given GenerateOption) : Except Failure Generate := do
  g.names.forM fun option => checkGenerate disk option ((g.value? option).getD [])
  refuseExtra g.arguments
  return {
    root := ← match g.value? .root with
      | some value => directory disk .root value
      | none => pure ⟨.root, disk.workingDir⟩
    testsDir := g.value? .testsDir
    outDir := g.value? .outDir
    config := g.value? .config
    withJson := g.has .withJson || g.has .all
    withTs := g.has .withTs || g.has .all
    workers := ← (g.value? .workers).mapM (positive .workers)
    humanize := g.has .humanize
    dryRun := g.has .dryRun
    verbose := g.has .verbose }

def runGenerate (disk : Disk) (arguments : List Text) : Outcome :=
  match Switch.readAll generateSwitches true arguments with
  | .error e => failed disk (.usage (.switch e))
  | .ok given =>
    if given.has .help then printed disk (helpText "generate [OPTIONS]".toList generateSwitches)
    else match Generate.ofGiven disk given with
      | .error failure => failed disk failure
      | .ok request => request.run disk

inductive InspectOption where
  | config | help
  deriving DecidableEq, Repr

def inspectSwitches : List (Switch InspectOption) :=
  [{ option := .config, long := "--config".toList, short := 'c', takesValue := true },
    { option := .help, long := "--help".toList }]

def Inspect.ofGiven (disk : Disk) (g : Given InspectOption) : Except Failure Inspect := do
  let config ← (g.value? .config).mapM (file disk .config)
  match g.arguments with
  | [] => throw (.usage (.missing .specFile))
  | argument :: extra =>
    let specFile ← file disk .specFile argument
    refuseExtra extra
    return { specFile, config }

def runInspect (disk : Disk) (arguments : List Text) : Outcome :=
  match Switch.readAll inspectSwitches true arguments with
  | .error e => failed disk (.usage (.switch e))
  | .ok given =>
    if given.has .help then
      printed disk (helpText "inspect [OPTIONS] SPEC_FILE".toList inspectSwitches)
    else match Inspect.ofGiven disk given with
      | .error failure => failed disk failure
      | .ok request => request.run disk

inductive Command where
  | generate | inspect
  deriving DecidableEq, Repr

def commandNames : List (Text × Command) :=
  [("generate".toList, .generate), ("inspect".toList, .inspect)]

def Command.ofName? (name : Text) : Option Command := commandNames.lookup name

def Command.run (disk : Disk) (arguments : List Text) : Command → Outcome
  | .generate => runGenerate disk arguments
  | .inspect => runInspect disk arguments

inductive ProgramOption where
  | version | help
  deriving DecidableEq, Repr

def programSwitches : List (Switch ProgramOption) :=
  [{ option := .version, long := "--version".toList }, { option := .help, long := "--help".toList }]

/-- What the options before the command ask for; the first of them counts. -/
def answerOptions? (disk : Disk) (g : Given ProgramOption) : Option Outcome :=
  g.names.head?.map fun option =>
    match option with
    | .version => printed disk (programName ++ ", version ".toList ++ version ++ ['\n'])
    | .help => printed disk (helpText "[OPTIONS] COMMAND [ARGS]...".toList programSwitches)

/-- A name that no command has. Where it looks like an option it is read as one first. -/
def runUnknown (disk : Disk) (name : Text) (arguments : List Text) : Outcome :=
  match Switch.readAll programSwitches false (name :: arguments) with
  | .error e => failed disk (.usage (.switch e))
  | .ok given =>
    let close := closeNames name (commandNames.map (·.1))
    (answerOptions? disk given).getD (failed disk (.usage (.noSuchCommand name close)))

def run (disk : Disk) (arguments : List Text) : Outcome :=
  match Switch.readAll programSwitches false arguments with
  | .error e => failed disk (.usage (.switch e))
  | .ok given =>
    (answerOptions? disk given).getD <|
      match given.arguments with
      | [] => ({ root := ⟨.root, disk.workingDir⟩ } : Generate).run disk
      | name :: arguments =>
        match Command.ofName? name with
        | some command => command.run disk arguments
        | none => runUnknown disk name arguments

end EndpointManifest.CommandLine
