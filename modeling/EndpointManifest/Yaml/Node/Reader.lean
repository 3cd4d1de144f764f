import EndpointManifest.Yaml.Node.Basic
import EndpointManifest.Yaml.Token.Lexer

/-!
From the tokens of a YAML text to the nodes of its one document. Names given with `&` are replaced
by the nodes that they name. Where there is no next token, the reading fails as the tokens did,
unless it has failed before.
-/

namespace EndpointManifest.Yaml

open Text

/-- The tokens still to be read, the nodes so far, those that have names, and what the handles of
tags stand for. -/
structure Reader where
  tokens : List Token
  failure : Error := .malformed
  nodes : Array Node := #[]
  named : List (Text × Nat) := []
  handles : List (Text × Text) := []

namespace Reader

def head (r : Reader) : Except Error Token :=
  match r.tokens with
  | t :: _ => .ok t
  | [] => .error r.failure

def drop (r : Reader) : Reader := { r with tokens := r.tokens.tail }

def atAny (r : Reader) (ts : List Token) : Except Error Bool := ts.contains <$> r.head

def add (r : Reader) (n : Node) : Nat × Reader := (r.nodes.size, { r with nodes := r.nodes.push n })

def missing (r : Reader) : Nat × Reader := r.add .missing

structure Properties where
  anchor : Option Text := none
  tag : Option (Option Text × Text) := none

def anchor? (r : Reader) : Except Error (Option Text × Reader) := do
  match ← r.head with
  | .anchor a => return (some a, r.drop)
  | _ => return (none, r)

def tag? (r : Reader) : Except Error (Option (Option Text × Text) × Reader) := do
  match ← r.head with
  | .tag handle suffix => return (some (handle, suffix), r.drop)
  | _ => return (none, r)

/-- The name and the tag stand in either order. -/
def properties (r : Reader) : Except Error (Properties × Reader) := do
  match ← r.anchor? with
  | (some a, r) =>
    let (tag, r) ← r.tag?
    return (⟨some a, tag⟩, r)
  | (none, r) =>
    match ← r.tag? with
    | (some tag, r) =>
      let (anchor, r) ← r.anchor?
      return (⟨anchor, some tag⟩, r)
    | (none, r) => return ({}, r)

/-- The tag in full; the lone mark counts as no tag that would say anything. -/
inductive FullTag where
  | none | lone | given (tag : Tag)

def fullTag (r : Reader) : Option (Option Text × Text) → Except Error FullTag
  | none => .ok .none
  | some (handle, suffix) =>
    let whole? : Option Text := match handle with
      | none => some suffix
      | some h => (r.handles.lookup h).map (· ++ suffix)
    match whole? with
    | none => .error .malformed
    | some whole => .ok (if whole = ['!'] then .lone else .given (.ofText whole))

def scalarTag (tag : FullTag) (content : Content) (plain : Bool) : Tag :=
  match tag with
  | .given t => t
  | .lone => .ofPlain content
  | .none => if plain then .ofPlain content else .text

def collectionTag (tag : FullTag) (default : Tag) : Tag :=
  match tag with
  | .given t => t
  | _ => default

/-- Adds a node under its name. No two nodes of a document have the same name. -/
def addNamed (r : Reader) (anchor : Option Text) (node : Node) : Except Error (Nat × Reader) :=
  let (id, r) := r.add node
  match anchor with
  | none => .ok (id, r)
  | some a =>
    if (r.named.lookup a).isSome then .error .malformed
    else .ok (id, { r with named := (a, id) :: r.named })

/-- Puts a node in place of the one that was added first, when its content is known. -/
def settle (id : Nat) (node : Node) (r : Reader) : Reader :=
  { r with nodes := r.nodes.setIfInBounds id node }

def deepest : Nat := 480

mutual

/-- A node inside `depth` collections. `inBlock` allows block collections, `indentless` a sequence
no deeper than its key. The fuel bounds the number of nodes and entries, of which each has a token.
-/
def node : (fuel : Nat) → (depth : Nat) → (inBlock indentless : Bool) → Reader →
    Except Error (Nat × Reader)
  | 0, _, _, _, _ => .error .malformed
  | fuel + 1, depth, inBlock, indentless, r => do
    match ← r.head with
    | .alias a =>
      match r.named.lookup a with
      | some id => return (id, r.drop)
      | none => throw .malformed
    | _ =>
      let (props, r) ← r.properties
      let tag ← r.fullTag props.tag
      let sequence (items : Reader → Except Error (List Nat × Reader)) (r : Reader) :
          Except Error (Nat × Reader) := do
        let tag := collectionTag tag .sequence
        let (id, r) ← r.addNamed props.anchor (.sequence tag [])
        if depth ≥ deepest then throw .tooDeep
        let (items, r) ← items r
        return (id, r.settle id (.sequence tag items))
      let mapping (entries : Reader → Except Error (List (Nat × Nat) × Reader)) (r : Reader) :
          Except Error (Nat × Reader) := do
        let tag := collectionTag tag .mapping
        let (id, r) ← r.addNamed props.anchor (.mapping tag [])
        if depth ≥ deepest then throw .tooDeep
        let (entries, r) ← entries r
        return (id, r.settle id (.mapping tag entries))
      let scalar (content : Content) (plain : Bool) (r : Reader) : Except Error (Nat × Reader) :=
        r.addNamed props.anchor (.scalar (scalarTag tag content plain) content)
      match ← r.head with
      | .scalar content plain => scalar content plain r.drop
      | .flowSequenceStart => sequence (flowItems fuel (depth + 1) true) r.drop
      | .flowMappingStart => mapping (flowEntries fuel (depth + 1) true) r.drop
      | t =>
        if indentless && t = .blockEntry then sequence (indentlessItems fuel (depth + 1)) r
        else if inBlock && t = .blockSequenceStart then
          sequence (blockItems fuel (depth + 1)) r.drop
        else if inBlock && t = .blockMappingStart then
          mapping (blockEntries fuel (depth + 1)) r.drop
        else if props.anchor.isSome || props.tag.isSome then scalar [] true r
        else throw .malformed

def nodeUnless : (fuel : Nat) → (depth : Nat) → (ends : List Token) → (inBlock indentless : Bool) →
    Reader → Except Error (Nat × Reader)
  | 0, _, _, _, _, _ => .error .malformed
  | fuel + 1, depth, ends, inBlock, indentless, r => do
    if ← r.atAny ends then return r.missing else node fuel depth inBlock indentless r

def valueUnless : (fuel : Nat) → (depth : Nat) → (ends : List Token) → (inBlock indentless : Bool) →
    Reader → Except Error (Nat × Reader)
  | 0, _, _, _, _, _ => .error .malformed
  | fuel + 1, depth, ends, inBlock, indentless, r => do
    if ← r.atAny [.value] then nodeUnless fuel depth ends inBlock indentless r.drop
    else return r.missing

def blockItems : (fuel : Nat) → (depth : Nat) → Reader → Except Error (List Nat × Reader)
  | 0, _, _ => .error .malformed
  | fuel + 1, depth, r => do
    match ← r.head with
    | .blockEntry =>
      let (item, r) ← nodeUnless fuel depth [.blockEntry, .blockEnd] true false r.drop
      let (items, r) ← blockItems fuel depth r
      return (item :: items, r)
    | .blockEnd => return ([], r.drop)
    | _ => throw .malformed

def indentlessItems : (fuel : Nat) → (depth : Nat) → Reader → Except Error (List Nat × Reader)
  | 0, _, _ => .error .malformed
  | fuel + 1, depth, r => do
    match ← r.head with
    | .blockEntry =>
      let (item, r) ← nodeUnless fuel depth [.blockEntry, .key, .value, .blockEnd] true false r.drop
      let (items, r) ← indentlessItems fuel depth r
      return (item :: items, r)
    | _ => return ([], r)

def blockEntries : (fuel : Nat) → (depth : Nat) → Reader → Except Error (List (Nat × Nat) × Reader)
  | 0, _, _ => .error .malformed
  | fuel + 1, depth, r => do
    match ← r.head with
    | .key =>
      let ends := [Token.key, .value, .blockEnd]
      let (key, r) ← nodeUnless fuel depth ends true true r.drop
      let (value, r) ← valueUnless fuel depth ends true true r
      let (entries, r) ← blockEntries fuel depth r
      return ((key, value) :: entries, r)
    | .blockEnd => return ([], r.drop)
    | _ => throw .malformed

/-- The items up to the closing bracket, each but the first after a comma. -/
def flowItems : (fuel : Nat) → (depth : Nat) → (first : Bool) → Reader →
    Except Error (List Nat × Reader)
  | 0, _, _, _ => .error .malformed
  | fuel + 1, depth, first, r => do
    if ← r.atAny [.flowSequenceEnd] then return ([], r.drop)
    if !first && !(← r.atAny [.flowEntry]) then throw .malformed
    let r := if first then r else r.drop
    let ends := [Token.flowEntry, .flowSequenceEnd]
    match ← r.head with
    | .key =>
      let (id, r) := r.add (.mapping .mapping [])
      if depth ≥ deepest then throw .tooDeep
      let (key, r) ← nodeUnless fuel (depth + 1) (.value :: ends) false false r.drop
      let (value, r) ← valueUnless fuel (depth + 1) ends false false r
      let (items, r) ← flowItems fuel depth false (r.settle id (.mapping .mapping [(key, value)]))
      return (id :: items, r)
    | .flowSequenceEnd => return ([], r.drop)
    | _ =>
      let (item, r) ← node fuel depth false false r
      let (items, r) ← flowItems fuel depth false r
      return (item :: items, r)

def flowEntries : (fuel : Nat) → (depth : Nat) → (first : Bool) → Reader →
    Except Error (List (Nat × Nat) × Reader)
  | 0, _, _, _ => .error .malformed
  | fuel + 1, depth, first, r => do
    if ← r.atAny [.flowMappingEnd] then return ([], r.drop)
    if !first && !(← r.atAny [.flowEntry]) then throw .malformed
    let r := if first then r else r.drop
    let ends := [Token.flowEntry, .flowMappingEnd]
    match ← r.head with
    | .key =>
      let (key, r) ← nodeUnless fuel depth (.value :: ends) false false r.drop
      let (value, r) ← valueUnless fuel depth ends false false r
      let (entries, r) ← flowEntries fuel depth false r
      return ((key, value) :: entries, r)
    | .flowMappingEnd => return ([], r.drop)
    | _ =>
      let (key, r) ← node fuel depth false false r
      let (value, r) := r.missing
      let (entries, r) ← flowEntries fuel depth false r
      return ((key, value) :: entries, r)

end

/-- What the handles stand for where no directive says otherwise. -/
def commonHandles : List (Text × Text) := [(['!'], ['!']), (['!', '!'], Tag.commonStem)]

/-- The directives before a document; the flag says whether a version was given. A version other
than 1 and a handle given twice are refused. -/
def directives : List Token → (versioned : Bool) → (handles : List (Text × Text)) →
    Except Error (List (Text × Text) × List Token)
  | .directive (.version major) :: rest, versioned, handles =>
    if versioned || major ≠ 1 then .error .malformed else directives rest true handles
  | .directive (.tag handle stem) :: rest, versioned, handles =>
    if (handles.lookup handle).isSome then .error .malformed
    else directives rest versioned ((handle, stem) :: handles)
  | .directive .other :: rest, versioned, handles => directives rest versioned handles
  | rest, _, handles => .ok (handles ++ commonHandles, rest)

def isDirective : Token → Bool
  | .directive _ => true
  | _ => false

def openDocument (r : Reader) : Except Error Reader := do
  let (handles, rest) ← directives r.tokens false []
  let r := { r with tokens := rest, handles }
  match ← r.head with
  | .documentStart => return r.drop
  | _ => throw .malformed

def markedContent (fuel : Nat) (r : Reader) : Except Error (Nat × Reader) := do
  let t ← r.head
  let ends := [Token.documentStart, .documentEnd, .streamEnd]
  if isDirective t || ends.contains t then return r.missing else node fuel 0 true false r

/-- Nothing may follow a document but marks of its end. -/
def finish (r : Reader) : Except Error Unit := do
  let rest : Reader := { r with tokens := r.tokens.dropWhile (· = Token.documentEnd) }
  match ← rest.head with
  | .streamEnd => return ()
  | _ =>
    let _ ← rest.openDocument
    throw Error.malformed

def document (r : Reader) : Except Error (Option Document) := do
  let fuel := 4 * r.tokens.length + 4
  let t ← r.head
  if t = .streamEnd then return none
  else if isDirective t || t = .documentStart then
    let (root, r) ← markedContent fuel (← r.openDocument)
    r.finish
    return some { nodes := r.nodes, root }
  else
    let (root, r) ← node fuel 0 true false { r with handles := commonHandles }
    r.finish
    return some { nodes := r.nodes, root }

end Reader

def Document.ofText (text : Text) : Except Error (Option Document) :=
  let stream := TokenStream.ofText text
  Reader.document { tokens := stream.tokens, failure := stream.failure }

end EndpointManifest.Yaml
