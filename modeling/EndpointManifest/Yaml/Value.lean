import EndpointManifest.Schema.Datum
import EndpointManifest.Yaml.Base64
import EndpointManifest.Yaml.Node.Merge
import EndpointManifest.Yaml.Node.Reader
import EndpointManifest.Yaml.Number

/-!
The data that a YAML document stands for. A scalar is read when its node is reached, a collection
looks at what it holds only after all that was reached before it; so of several faults the outermost
is found.
-/

namespace EndpointManifest.Yaml

open Text

namespace Content

def toBool (c : Content) : Except Error Bool :=
  match Tag.truths.find? fun (name, _) => ofText name.toList = c.lower with
  | some (_, b) => .ok b
  | none => .error (.notTruth c.lower)

def toBytes (c : Content) : Except Error (List UInt8) :=
  match c.text?.bind Base64.decode? with
  | some octets => .ok octets
  | none => .error .malformed

def toMoment (c : Content) : Except Error Moment :=
  match (c.text?.bind fun t => Moment.ofText? (Tag.withoutFinalBreak t)) with
  | some m => do
    m.check
    return m
  | none => .error .notMoment

end Content

/-- What a collection is under its tag, which need not be the kind of its node. -/
inductive Collection where
  | items | entries | keys | pairs
  deriving DecidableEq, Repr

def Tag.collection? : Tag → Option Collection
  | .sequence => some .items
  | .mapping => some .entries
  | .set => some .keys
  | .orderedMapping | .pairs => some .pairs
  | _ => none

namespace Nodes

/-- What the tag of a scalar is applied to. A mapping stands for the value of its key `=`; one that
stands for itself has no end. -/
def scalarContent : (fuel : Nat) → Nodes → (id : Nat) → Except Error Content
  | 0, _, _ => .error .tooDeep
  | fuel + 1, nodes, id =>
    match nodeAt nodes id with
    | .scalar _ content => .ok content
    | .mapping _ entries =>
      match entries.find? fun (key, _) => nodes.hasTag .value key with
      | some (_, value) => scalarContent fuel nodes value
      | none => .error .malformed
    | .sequence .. => .error .malformed

def readScalar (nodes : Nodes) (id : Nat) : Except Error Datum := do
  let node := nodeAt nodes id
  let content := scalarContent (nodes.size + 1) nodes id
  match node.tag with
  | .null => (fun _ => Datum.null) <$> content
  | .bool => .bool <$> (← content).toBool
  | .int => .int <$> (← content).toInt
  | .real => .real <$> (← content).toReal
  | .text => return ((← content).text?.map Datum.text).getD .brokenText
  | .bytes => .bytes <$> (← content).toBytes
  | .moment =>
    let content ← content
    if node.isMapping then throw .momentOfMapping
    let _ ← content.toMoment
    return .moment
  | _ => throw .malformed

end Nodes

/-- A document whose values are being found: those of the scalars reached so far, and the
collections in the order in which they were reached. -/
structure Finding where
  nodes : Nodes
  scalars : Array (Option Datum)
  reached : Array Bool
  waiting : Array Nat := #[]
  deriving Repr

namespace Finding

def start (nodes : Nodes) : Finding where
  nodes := nodes
  scalars := Array.replicate nodes.size none
  reached := Array.replicate nodes.size false

def isReached (f : Finding) (id : Nat) : Bool := (f.reached[id]?).getD false

def collectionAt? (f : Finding) (id : Nat) : Option Collection :=
  (nodeAt f.nodes id).tag.collection?

/-- Reaches a node, which is looked at only once. -/
def reach (f : Finding) (id : Nat) : Except Error Finding := do
  if f.isReached id then return f
  let f := { f with reached := f.reached.setIfInBounds id true }
  if (f.collectionAt? id).isSome then return { f with waiting := f.waiting.push id }
  else
    let d ← f.nodes.readScalar id
    return { f with scalars := f.scalars.setIfInBounds id (some d) }

/-- Collections are no keys. -/
def reachEntry (f : Finding) (entry : Nat × Nat) : Except Error Finding := do
  let f ← f.reach entry.1
  if (f.collectionAt? entry.1).isSome then throw .malformed
  f.reach entry.2

/-- A pair is a mapping of one entry. -/
def reachPair (f : Finding) (id : Nat) : Except Error Finding := do
  match nodeAt f.nodes id with
  | .mapping _ [(key, value)] => (← f.reach key).reach value
  | _ => throw .malformed

def reachContent (mergeFuel : Nat) (f : Finding) (id : Nat) : Except Error Finding := do
  match f.collectionAt? id, nodeAt f.nodes id with
  | some .items, .sequence _ items => items.foldlM reach f
  | some .pairs, .sequence _ items => items.foldlM reachPair f
  | some .entries, .mapping .. | some .keys, .mapping .. =>
    let nodes ← f.nodes.mergeInto mergeFuel id []
    (nodes.entriesAt id).foldlM reachEntry { f with nodes }
  | _, _ => throw .malformed

/-- Reaches the content of the collections in turn, from the one that was reached as number `next`
on. Every collection waits only once, so the fuel need not exceed the number of nodes. -/
def run (mergeFuel : Nat) : (fuel : Nat) → (next : Nat) → Finding → Except Error Finding
  | 0, _, f => .ok f
  | fuel + 1, next, f => do
    match f.waiting[next]? with
    | none => return f
    | some id => run mergeFuel fuel (next + 1) (← f.reachContent mergeFuel id)

/-- The value of a node down to a depth, at which collections are empty. Of equal keys in a set one
counts. -/
def datum (f : Finding) : (depth : Nat) → (id : Nat) → Datum
  | 0, id =>
    match f.collectionAt? id with
    | none => ((f.scalars[id]?).join).getD .null
    | some .entries => .mapping []
    | some _ => .list []
  | depth + 1, id =>
    match f.collectionAt? id, nodeAt f.nodes id with
    | none, _ => ((f.scalars[id]?).join).getD .null
    | some .items, n => .list (n.items.map (f.datum depth))
    | some .entries, n =>
      .mapping (n.entries.map fun (key, value) => (f.datum depth key, f.datum depth value))
    | some .keys, n => .list (Datum.distinct (n.entries.map fun (key, _) => f.datum depth key))
    | some .pairs, n =>
      .list <| n.items.map fun i =>
        .list ((nodeAt f.nodes i).entries.flatMap fun (key, value) =>
          [f.datum depth key, f.datum depth value])

end Finding

/-- The data of a text down to a depth, beyond which collections are empty. A text without document
has none. -/
def read (depth : Nat) (text : Text) : Except Error Datum := do
  match ← Document.ofText text with
  | none => return .null
  | some document =>
    let start ← (Finding.start document.nodes).reach document.root
    let found ← start.run (start.nodes.entryCount + 1) (document.nodes.size + 1) 0
    return found.datum depth document.root

end EndpointManifest.Yaml
