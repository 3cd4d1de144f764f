import EndpointManifest.Yaml.Tag

/-!
The nodes of a YAML document. A node stands for others by their numbers, so that one may have
several places, also one inside itself.
-/

namespace EndpointManifest.Yaml

inductive Node where
  | scalar (tag : Tag) (content : Content)
  | sequence (tag : Tag) (items : List Nat)
  | mapping (tag : Tag) (entries : List (Nat × Nat))
  deriving Repr

namespace Node

def tag : Node → Tag
  | .scalar tag _ | .sequence tag _ | .mapping tag _ => tag

def withTag (tag : Tag) : Node → Node
  | .scalar _ content => .scalar tag content
  | .sequence _ items => .sequence tag items
  | .mapping _ entries => .mapping tag entries

def isMapping : Node → Bool
  | .mapping .. => true
  | _ => false

def entries : Node → List (Nat × Nat)
  | .mapping _ entries => entries
  | _ => []

def items : Node → List Nat
  | .sequence _ items => items
  | _ => []

def withEntries (entries : List (Nat × Nat)) : Node → Node
  | .mapping tag _ => .mapping tag entries
  | n => n

/-- An empty plain scalar, as which a node counts that is not written. -/
def missing : Node := .scalar .null []

end Node

structure Document where
  nodes : Array Node
  root : Nat
  deriving Repr

/-- The node of a number; a number that none has stands for the missing node. -/
def nodeAt (nodes : Array Node) (id : Nat) : Node := (nodes[id]?).getD .missing

end EndpointManifest.Yaml
