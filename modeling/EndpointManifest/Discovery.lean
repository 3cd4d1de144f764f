import EndpointManifest.File.Disk
import EndpointManifest.Text.Order

/-!
Discovering spec files below a directory. A directory's own files come first, in order of their
names, then what its subdirectories hold, in order of theirs.
-/

namespace EndpointManifest.Discovery

open Text

def skippedDirs : List Text :=
  [".git", "node_modules", "__pycache__", "dist", "build", "coverage", "playwright-report",
   "test-results"].map String.toList

def entersDir (name : Text) : Bool := !skippedDirs.contains name && !startsWith ['.'] name

def isSpecFile (suffixes : List Text) (name : Text) : Bool :=
  suffixes.any (endsWith · name) && !endsWith ".d.ts".toList name

def ownFiles (suffixes : List Text) (entries : List (Text × Tree)) : List Text :=
  sorted ((entries.filter fun (name, node) => !node.isDir && isSpecFile suffixes name).map (·.1))

inductive SearchError where
  | notADirectory
  | unreachable (error : FileError)
  /-- Directories lie deeper in one another than the walk gets. -/
  | tooDeep
  deriving DecidableEq, Repr

mutual

/-- The parts of the spec files below a node, each from that node on. -/
def below (suffixes : List Text) : Tree → List (List Text)
  | .file _ => []
  | .dir entries =>
    (ownFiles suffixes entries).map (fun name => [name]) ++
      (sortedByKey (subdirs suffixes entries)).flatMap fun (name, found) => found.map (name :: ·)

/-- The subdirectories that are entered, in listing order, with what lies below them. -/
def subdirs (suffixes : List Text) : List (Text × Tree) → List (Text × List (List Text))
  | [] => []
  | (name, node) :: rest =>
    if node.isDir && entersDir name then (name, below suffixes node) :: subdirs suffixes rest
    else subdirs suffixes rest

end

mutual

/-- The directories below a node that are entered, each by the names that lead to it from there. -/
def dirsBelow : Tree → List (List Text)
  | .file _ => []
  | .dir entries => dirsAmong entries

def dirsAmong : List (Text × Tree) → List (List Text)
  | [] => []
  | (name, node) :: rest =>
    if node.isDir && entersDir name then
      [name] :: (dirsBelow node).map (name :: ·) ++ dirsAmong rest
    else dirsAmong rest

end

/-- How the walk writes a directory that it comes to, by the names that led there. Below the current
directory the dot stays in front. -/
def walkText (path : Path) (dirs : List Text) : Text :=
  dirs.foldl (fun t dir => if endsWith ['/'] t then t ++ dir else t ++ '/' :: dir) path.toText

/-- A directory whose written path is too long cannot be listed, and the walk passes over it. -/
def isListed (path : Path) (dirs : List Text) : Bool :=
  Disk.byteSize (walkText path dirs) ≤ Disk.maxPathSize

def filesBelow (path : Path) (suffixes : List Text) (node : Tree) : List Path :=
  ((below suffixes node).filter fun parts => isListed path parts.dropLast).map fun parts =>
    { path with parts := path.parts ++ parts }

/-- The walk of a directory stays open while those below it are walked. It goes down from wherever
the entries are listed, whether or not the directory that it comes to can be listed in turn. -/
def isTooDeep (levels : Nat) (path : Path) (node : Tree) : Bool :=
  (dirsBelow node).any fun dirs => levels < dirs.length && isListed path dirs.dropLast

/-- The paths of the spec files below a path. A path that does not exist has none; a path that is no
directory is refused. -/
def specFiles (disk : Disk) (path : Path) (suffixes : List Text) : Except SearchError (List Path) :=
  match disk.look path with
  | .error e => .error (.unreachable e)
  | .ok none => .ok []
  | .ok (some (.file _)) => .error .notADirectory
  | .ok (some node) =>
    if isTooDeep disk.room.walk path node then .error .tooDeep
    else .ok (filesBelow path suffixes node)

end EndpointManifest.Discovery
