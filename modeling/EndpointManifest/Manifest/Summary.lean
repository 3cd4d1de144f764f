import EndpointManifest.Manifest.Basic

/-!
The summary of a manifest for its reader.
-/

namespace EndpointManifest.Manifest

open Text

def shownWarnings : Nat := 5

def warningLines (m : Manifest) : List Text :=
  if m.warnings.isEmpty then []
  else
    ((m.warnings.take shownWarnings).map fun w => "Warning: ".toList ++ w.message) ++
      (if m.warnings.length > shownWarnings then
        ["... and ".toList ++ ofNat (m.warnings.length - shownWarnings) ++ " more".toList]
      else []) ++ [[]]

def featureLines (feature : Text × List Endpoint) : List Text :=
  ("  ".toList ++ feature.1 ++ " (".toList ++ ofNat feature.2.length ++ ")".toList) ::
    (feature.2.map fun e => "    ".toList ++ e.method.name ++ ' ' :: e.url) ++ [[]]

def summary (m : Manifest) : Text :=
  join ['\n'] <|
    m.warningLines ++
    ["Scanned ".toList ++ ofNat m.scanned ++ " spec files (".toList ++ ofNat m.included ++
        " with endpoints)".toList,
      "Found ".toList ++ ofNat m.endpointCount ++ " endpoints across ".toList ++
        ofNat m.features.length ++ " features:\n".toList] ++
    m.features.flatMap featureLines ++
    if m.features.isEmpty then ["  No endpoints found in spec files".toList] else []

end EndpointManifest.Manifest
