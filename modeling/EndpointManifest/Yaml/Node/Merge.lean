import EndpointManifest.Yaml.Node.Basic

/-!
Merging: a mapping with the key `<<` takes in the entries of the mappings under that key. The merged
mapping takes the place of the written one, and the key `=` in it becomes an ordinary text.
-/

namespace EndpointManifest.Yaml

abbrev Nodes := Array Node

namespace Nodes

def entriesAt (nodes : Nodes) (id : Nat) : List (Nat × Nat) := (nodeAt nodes id).entries

def hasTag (nodes : Nodes) (tag : Tag) (id : Nat) : Bool := (nodeAt nodes id).tag = tag

def setEntries (nodes : Nodes) (id : Nat) (entries : List (Nat × Nat)) : Nodes :=
  nodes.modify id (·.withEntries entries)

/-- The mappings that the value of a merge key names: itself, or the items of a sequence. -/
def sources? (nodes : Nodes) (id : Nat) : Option (List Nat) :=
  match nodeAt nodes id with
  | .mapping .. => some [id]
  | .sequence _ items => if items.all fun i => (nodeAt nodes i).isMapping then some items else none
  | .scalar .. => none

/-- The value under the first merge key of some entries, and the entries without it. -/
def firstMerge? (nodes : Nodes) : List (Nat × Nat) → Option (Nat × List (Nat × Nat))
  | [] => none
  | (key, value) :: rest =>
    if nodes.hasTag .merge key then some (value, rest)
    else (firstMerge? nodes rest).map fun (found, others) => (found, (key, value) :: others)

def nameValueKeys (nodes : Nodes) (entries : List (Nat × Nat)) : Nodes :=
  entries.foldl (fun nodes (key, _) =>
    if nodes.hasTag .value key then nodes.modify key (·.withTag .text) else nodes) nodes

/-- Merges into a mapping what its merge keys name. What has been brought so far goes before its own
entries in the end; of several mappings under one key the last comes first. Every round takes a
merge key away, so the fuel need not exceed their number. -/
def mergeInto : (fuel : Nat) → Nodes → (id : Nat) → (brought : List (Nat × Nat)) →
    Except Error Nodes
  | 0, _, _, _ => .error .malformed
  | fuel + 1, nodes, id, brought => do
    match nodes.firstMerge? (nodes.entriesAt id) with
    | none =>
      let entries := brought ++ nodes.entriesAt id
      return (nodes.setEntries id entries).nameValueKeys entries
    | some (value, others) =>
      let nodes := nodes.setEntries id others
      match nodes.sources? value with
      | none => throw .malformed
      | some sources =>
        let nodes ← sources.foldlM (fun nodes source => mergeInto fuel nodes source []) nodes
        mergeInto fuel nodes id (brought ++ sources.reverse.flatMap nodes.entriesAt)

/-- The number of entries in all mappings, of which merge keys are a part. -/
def entryCount (nodes : Nodes) : Nat := nodes.foldl (fun n node => n + node.entries.length) 0

end Nodes
end EndpointManifest.Yaml
