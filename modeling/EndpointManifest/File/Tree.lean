import EndpointManifest.Text.Blank

/-!
A directory tree without links. The entries of a directory stand in the order in which they are
listed, which nothing may depend on.
-/

namespace EndpointManifest

inductive Tree where
  | file (octets : List UInt8)
  | dir (entries : List (Text × Tree))
  deriving Repr, Inhabited

namespace Tree

def isDir : Tree → Bool
  | .dir _ => true
  | .file _ => false

def child? (name : Text) : Tree → Option Tree
  | .dir entries => entries.lookup name
  | .file _ => none

/-- What stands at a location, a list of names from the top down. -/
def get? (tree : Tree) : List Text → Option Tree
  | [] => some tree
  | name :: rest =>
    match tree.child? name with
    | some child => child.get? rest
    | none => none

def putEntry (name : Text) (node : Tree) : List (Text × Tree) → List (Text × Tree)
  | [] => [(name, node)]
  | (n, t) :: rest => if n = name then (n, node) :: rest else (n, t) :: putEntry name node rest

/-- Puts a node at a location whose parent is a directory of the tree; elsewhere nothing changes. -/
def put (node : Tree) : List Text → Tree → Tree
  | [], _ => node
  | [name], .dir entries => .dir (putEntry name node entries)
  | name :: rest, .dir entries =>
    match entries.lookup name with
    | some child => .dir (putEntry name (put node rest child) entries)
    | none => .dir entries
  | _ :: _, .file octets => .file octets

mutual

def files : Tree → List (List Text × List UInt8)
  | .file octets => [([], octets)]
  | .dir entries => filesOf entries

def filesOf : List (Text × Tree) → List (List Text × List UInt8)
  | [] => []
  | (name, node) :: rest =>
    (files node).map (fun (location, octets) => (name :: location, octets)) ++ filesOf rest

end

end Tree
end EndpointManifest
