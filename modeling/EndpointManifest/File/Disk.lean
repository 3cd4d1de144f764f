import EndpointManifest.File.Error
import EndpointManifest.File.Path
import EndpointManifest.File.Tree

/-!
A tree with a working directory, and what a program does with the paths in it. Two dots lead to the
parent of the directory reached so far.
-/

namespace EndpointManifest

open Text

/-- How many levels deep a recursion goes before it is given up; a manifest has four. -/
abbrev Depth := { levels : Nat // 4 ≤ levels }

/-- What the program's recursions have room for. A thousand calls may be open at once, those around
the recursion among them, so that a depth is 970 to 995. These are for a run from the command
line. -/
structure Room where
  /-- Missing directories above one that is made. -/
  make : Depth := ⟨980, by decide⟩
  /-- Directories that are searched, one in the other. -/
  walk : Depth := ⟨980, by decide⟩
  /-- Lists and objects that are printed, one in the other. -/
  print : Depth := ⟨980, by decide⟩
  deriving Repr

structure Disk where
  top : Tree := .dir []
  workingDir : List Text := []
  room : Room := {}
  deriving Repr

namespace Disk

/-- A name may have as many bytes. -/
def maxNameSize : Nat := 255

/-- A whole path may have as many bytes. -/
def maxPathSize : Nat := 4095

def byteSize (t : Text) : Nat := (encodeUtf8 t).length

/-- Follows the parts of a path from a location. A name is looked at only when the directory is
reached in which it should be. -/
def follow (tree : Tree) (location : List Text) : List Text → Except Refusal (List Text)
  | [] => .ok location
  | part :: rest =>
    match tree.get? location with
    | some (.dir entries) =>
      if part = ['.'] then follow tree location rest
      else if part = ['.', '.'] then follow tree location.dropLast rest
      else if byteSize part > maxNameSize then .error .nameTooLong
      else if (entries.lookup part).isSome then follow tree (location ++ [part]) rest
      else .error .notFound
    | some (.file _) => .error .notADirectory
    | none => .error .notFound

def startOf (disk : Disk) (path : Path) : List Text :=
  if path.isAbsolute then [] else disk.workingDir

/-- Follows some parts of a path, if the whole path is not too long. -/
def followPart (disk : Disk) (path : Path) (parts : List Text) : Except Refusal (List Text) :=
  if byteSize path.toText > maxPathSize then .error .nameTooLong
  else follow disk.top (disk.startOf path) parts

def locate (disk : Disk) (path : Path) : Except Refusal (List Text) :=
  disk.followPart path path.parts

def stat (disk : Disk) (path : Path) : Except Refusal Tree := do
  match disk.top.get? (← disk.locate path) with
  | some node => return node
  | none => throw .notFound

def hasNull (path : Path) : Bool := path.parts.any (·.contains '\x00')

/-- What stands at a path, if anything; a path with U+0000 leads nowhere. -/
def node? (disk : Disk) (path : Path) : Option Tree :=
  if hasNull path then none else (disk.stat path).toOption

def isDir (disk : Disk) (path : Path) : Bool := (disk.node? path).any (·.isDir)

/-- What stands at a path, if anything. A name that is too long is an error all the same. -/
def look (disk : Disk) (path : Path) : Except FileError (Option Tree) :=
  if !hasNull path && disk.stat path matches .error .nameTooLong then
    .error (.refused .nameTooLong path.toText)
  else .ok (disk.node? path)

/-- The bytes of a file; `name` is the path as messages show it. -/
def readBytes (disk : Disk) (path : Path) (name : Text) : Except FileError (List UInt8) :=
  if hasNull path then .error .nullInPath
  else match disk.stat path with
    | .error refusal => .error (.refused refusal name)
    | .ok (.dir _) => .error (.refused .isADirectory name)
    | .ok (.file octets) => .ok octets

/-- The text of a file, with every end of line a line feed. -/
def readText (disk : Disk) (path : Path) (name : Text) : Except FileError Text := do
  match decodeUtf8 (← disk.readBytes path name) with
  | .ok t => return normalizeNewlines t
  | .error e => throw (.undecodable e)

/-- A file that is read in pieces shows errors of decoding as they are in a piece. -/
def pieceSize : Nat := 8192

def readTextInPieces (disk : Disk) (path : Path) (name : Text) : Except FileError Text := do
  match decodeUtf8InPieces pieceSize (← disk.readBytes path name) with
  | .ok t => return normalizeNewlines t
  | .error e => throw (.undecodable e)

/-- The directory that a path's last part stands in, with that part. -/
def locateParent (disk : Disk) (path : Path) : Except Refusal (List Text × Text) := do
  let location ← disk.followPart path path.parts.dropLast
  match disk.top.get? location with
  | some (.dir _) =>
    if byteSize path.name > maxNameSize then throw .nameTooLong else return (location, path.name)
  | some (.file _) => throw .notADirectory
  | none => throw .notFound

def makeDir (disk : Disk) (path : Path) : Except Refusal Disk := do
  match disk.stat path with
  | .ok _ => throw .exists
  | .error .notFound =>
    let (parent, name) ← disk.locateParent path
    if name = ['.', '.'] then throw .notFound
    else return { disk with top := Tree.put (.dir []) (parent ++ [name]) disk.top }
  | .error refusal => throw refusal

def settle (disk : Disk) (path : Path) : Except Refusal Disk → Disk × Except FileError Unit
  | .ok made => (made, .ok ())
  | .error refusal =>
    if refusal ≠ .notFound && disk.isDir path then (disk, .ok ())
    else (disk, .error (.refused refusal path.toText))

/-- Makes the directory that the parts, given last part first, lead to, and before it those above it
that are not there, as long as there are levels left. The disk is given back in any case, with the
directories made so far. -/
def makeDirsFrom (anchor : Anchor) (disk : Disk) : (levels : Nat) → List Text →
    Disk × Except FileError Unit
  | 0, _ => (disk, .error .tooDeep)
  | _ + 1, [] => disk.settle ⟨anchor, []⟩ (disk.makeDir ⟨anchor, []⟩)
  | levels + 1, name :: above =>
    let path : Path := ⟨anchor, (name :: above).reverse⟩
    match disk.makeDir path with
    | .error .notFound =>
      match makeDirsFrom anchor disk levels above with
      | (disk, .error e) => (disk, .error e)
      | (disk, .ok ()) => disk.settle path (disk.makeDir path)
    | outcome => disk.settle path outcome

def makeDirs (disk : Disk) (path : Path) : Disk × Except FileError Unit :=
  if hasNull path then (disk, .error .nullInPath)
  else makeDirsFrom path.anchor disk disk.room.make path.parts.reverse

def writeBytes (disk : Disk) (path : Path) (octets : List UInt8) : Disk × Except FileError Unit :=
  if hasNull path then (disk, .error .nullInPath)
  else match disk.locateParent path with
    | .error refusal => (disk, .error (.refused refusal path.toText))
    | .ok (parent, name) =>
      let location := parent ++ [name]
      match disk.top.get? location with
      | some (.dir _) => (disk, .error (.refused .isADirectory path.toText))
      | _ => ({ disk with top := Tree.put (.file octets) location disk.top }, .ok ())

def writeText (disk : Disk) (path : Path) (content : Text) : Disk × Except FileError Unit :=
  disk.writeBytes path (encodeUtf8 content)

end Disk
end EndpointManifest
