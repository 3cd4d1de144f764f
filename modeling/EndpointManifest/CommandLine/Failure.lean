import EndpointManifest.CommandLine.Switch
import EndpointManifest.Manifest.Grid
import EndpointManifest.Output
import EndpointManifest.Settings.Load
import EndpointManifest.Text.ControlSequence

/-!
What can go wrong in a run, and what a run leaves behind.
-/

namespace EndpointManifest.CommandLine

open Text

inductive Parameter where
  | root | config | workers | specFile
  deriving DecidableEq, Repr

def Parameter.hint : Parameter → Text
  | .root => "'--root' / '-r'".toList
  | .config => "'--config' / '-c'".toList
  | .workers => "'--workers' / '-w'".toList
  | .specFile => "'SPEC_FILE'".toList

inductive ValueError where
  | noSuchFile (path : Text)
  | noSuchDirectory (path : Text)
  | directoryForFile (path : Text)
  | fileForDirectory (path : Text)
  | notAnInteger (value : Text)
  | belowOne (value : Int)
  deriving DecidableEq, Repr

def ValueError.message : ValueError → Text
  | .noSuchFile path => "File ".toList ++ quoted path ++ " does not exist.".toList
  | .noSuchDirectory path => "Directory ".toList ++ quoted path ++ " does not exist.".toList
  | .directoryForFile path => "File ".toList ++ quoted path ++ " is a directory.".toList
  | .fileForDirectory path => "Directory ".toList ++ quoted path ++ " is a file.".toList
  | .notAnInteger value => quoted value ++ " is not a valid integer range.".toList
  | .belowOne value => (toString value).toList ++ " is not in the range x>=1.".toList

inductive UsageError where
  | switch (error : SwitchError)
  | noSuchCommand (name : Text) (close : List Text)
  | missing (parameter : Parameter)
  | extraArguments (arguments : List Text)
  | value (parameter : Parameter) (error : ValueError)
  deriving DecidableEq, Repr

def UsageError.message : UsageError → Text
  | .switch error => error.message
  | .noSuchCommand name close =>
    "No such command ".toList ++ quoted name ++ ['.'] ++ suggestion close
  | .missing parameter => "Missing argument ".toList ++ parameter.hint ++ ['.']
  | .extraArguments arguments =>
    "Got unexpected extra argument".toList ++ (if arguments.length = 1 then [] else ['s']) ++
      " (".toList ++ join [' '] arguments ++ [')']
  | .value parameter error =>
    "Invalid value for ".toList ++ parameter.hint ++ ": ".toList ++ error.message

inductive Failure where
  | usage (error : UsageError)
  /-- A path given as an option holds U+0000. -/
  | nullInPath
  /-- A directory that the program looks into by itself has a name that is too long. -/
  | unreachable (error : FileError)
  | settings (error : Settings.LoadError)
  | notADirectory (path : Text)
  /-- The directories with the tests lie too deep in one another. -/
  | tooDeep
  | spec (error : SpecError)
  | unprintable (error : Json.PrintError)
  | unwritable (error : Output.WriteError)
  /-- The tags in the name of a feature are wrong. -/
  | markup (error : Markup.Error)
  deriving DecidableEq, Repr

namespace Failure

def exitCode : Failure → Nat
  | .usage _ => 2
  | _ => 1

/-- What is reported. A failure without a message ends the run all the same. -/
def message? : Failure → Option Text
  | .usage error => some error.message
  | .nullInPath | .unreachable _ | .tooDeep | .unprintable _ => none
  | .settings error => if error.isReported then some (error.message error.details) else none
  | .notADirectory path => some ("Path is not a directory: ".toList ++ path)
  | .spec error => if error.isPassedOver then some error.message else none
  | .unwritable error => if error.isReported then some error.message else none
  | .markup _ => none

end Failure

structure Outcome where
  disk : Disk
  /-- What is written to standard output. -/
  output : Text := []
  warnings : List Text := []
  failure : Option Failure := none

namespace Outcome

def exitCode (o : Outcome) : Nat := (o.failure.map Failure.exitCode).getD 0

def warningText (o : Outcome) : Text :=
  o.warnings.flatMap fun w => "Warning: ".toList ++ w ++ ['\n']

def errorText (o : Outcome) : Text :=
  withoutControls <| o.warningText ++
    match o.failure.bind Failure.message? with
    | some message => "Error: ".toList ++ message ++ ['\n']
    | none => []

end Outcome
end EndpointManifest.CommandLine
