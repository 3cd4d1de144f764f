import EndpointManifest.CommandLine.Generate

/-!
Showing what a single spec file yields.
-/

namespace EndpointManifest.CommandLine

open Text

structure Inspect where
  specFile : Text
  config : Option Text := none
  deriving Repr

namespace Inspect

/-- The settings are looked for in the working directory. -/
def settings (disk : Disk) (i : Inspect) : Except Failure Settings := do
  let path ← settingsPath disk ⟨.root, disk.workingDir⟩ i.config
  (Settings.load disk path []).mapError .settings

def toJson (spec : Spec) (feature : Text) : Json :=
  .obj [("file".toList, .str spec.path), ("feature".toList, .str feature),
    ("endpoints".toList, .arr (spec.endpoints.map Endpoint.toJson))]

def report (disk : Disk) (s : Settings) (specFile : Text) : Outcome :=
  match Spec.ofFile disk s.reading specFile with
  | .error e => { disk, failure := some (.spec e) }
  | .ok spec =>
    match Json.render disk.room.print (toJson spec (spec.featureKey s)) with
    | .error e => { disk, failure := some (.unprintable e) }
    | .ok json => { disk, output := withoutControls (json ++ ['\n']) }

def run (disk : Disk) (i : Inspect) : Outcome :=
  match i.settings disk with
  | .error failure => { disk, failure := some failure }
  | .ok s => report disk s i.specFile

end Inspect
end EndpointManifest.CommandLine
