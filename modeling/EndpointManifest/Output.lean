import EndpointManifest.File.Disk
import EndpointManifest.Json.Printer

/-!
The files of a manifest: a module for the load generator, and on demand plain JSON and a typed
module for editors. All three hold the same JSON text.
-/

namespace EndpointManifest.Output

open Text

inductive Format where
  | js | json | ts
  deriving DecidableEq, Repr

def Format.fileName : Format → Text
  | .js => "endpoints.byFeature.js".toList
  | .json => "endpoints.byFeature.json".toList
  | .ts => "endpoints.byFeature.ts".toList

def jsHeader : Text := "// AUTO-GENERATED - k6 ESM compatible\nconst features = ".toList

def jsFooter : Text := ";\n\nexport default features;\n".toList

def tsHeader : Text :=
  ("// AUTO-GENERATED from Playwright specs\n" ++
    "export type Method = 'GET' | 'POST' | 'PUT' | 'PATCH' | 'DELETE';\n" ++
    "export type Endpoint = \x7b\n" ++
    "  name: string;\n" ++
    "  method: Method;\n" ++
    "  url: string;\n" ++
    "  headers?: Record<string, string>;\n" ++
    "  auth?: 'bearer';\n" ++
    "  expect?: \x7b status?: number; text?: string \x7d;\n" ++
    "  body?: string;\n" ++
    "\x7d;\n" ++
    "export const ENDPOINTS_BY_FEATURE: Record<string, Endpoint[]> = ").toList

def tsFooter : Text := ";\n".toList

def enclose (json : Text) : Format → Text
  | .js => jsHeader ++ json ++ jsFooter
  | .json => json ++ ['\n']
  | .ts => tsHeader ++ json ++ tsFooter

def render (levels : Nat) (features : Json) (format : Format) : Except Json.PrintError Text :=
  (Json.render levels features).map (enclose · format)

def formats (withJson withTs : Bool) : List Format :=
  [.js] ++ (if withJson then [.json] else []) ++ if withTs then [.ts] else []

inductive WriteError where
  | unprintable (error : Json.PrintError)
  | file (outDir : Text) (error : FileError)
  deriving Repr, DecidableEq

namespace WriteError

def isReported : WriteError → Bool
  | .unprintable _ | .file _ .nullInPath | .file _ .tooDeep => false
  | .file _ _ => true

def message (e : WriteError) : Text :=
  match e with
  | .unprintable error => error.message
  | .file outDir error =>
    if e.isReported then
      "Cannot write manifest to ".toList ++ outDir ++ ": ".toList ++ error.message
    else error.message

end WriteError

/-- Writes the files one after the other up to the first that fails. -/
def writeFiles (json : Text) (dir : Path) (disk : Disk) : List Format →
    Disk × Except FileError (List Path)
  | [] => (disk, .ok [])
  | format :: rest =>
    let path := dir.child format.fileName
    match disk.writeText path (enclose json format) with
    | (disk, .error e) => (disk, .error e)
    | (disk, .ok ()) =>
      match writeFiles json dir disk rest with
      | (disk, .error e) => (disk, .error e)
      | (disk, .ok paths) => (disk, .ok (path :: paths))

/-- Writes a manifest, once it is printed, into a directory, which is made if it is not there. The
disk is given back in any case; after a failure it holds what was written before. -/
def write (disk : Disk) (features : Json) (outDir : Text) (withJson withTs : Bool) :
    Disk × Except WriteError (List Path) :=
  match Json.render disk.room.print features with
  | .error e => (disk, .error (.unprintable e))
  | .ok json =>
    let dir := Path.ofText outDir
    match disk.makeDirs dir with
    | (disk, .error e) => (disk, .error (.file outDir e))
    | (disk, .ok ()) =>
      match writeFiles json dir disk (formats withJson withTs) with
      | (disk, .error e) => (disk, .error (.file outDir e))
      | (disk, .ok paths) => (disk, .ok paths)

end EndpointManifest.Output
