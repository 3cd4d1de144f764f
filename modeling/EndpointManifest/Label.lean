import EndpointManifest.Text.Search

/-!
Labels of a spec: the titles of its tests and of the groups they stand in, with the offsets at which
the calls that declare them start.
-/

namespace EndpointManifest

open Text

structure Label where
  offset : Int
  title : Text
  deriving Repr, DecidableEq

/-- The titles of tests and of groups, each in the order of the source. -/
structure LabelIndex where
  titles : List Label := []
  groups : List Label := []
  deriving Repr

namespace Label

/-- The arguments of a declaring call as far as its title: `(`, a literal on one line, a comma. -/
def titleArgument? (t : Text) : Option (Text × Text) := do
  let (title, rest) ← lineLiteral? (skipBlanks (← afterMark? '(' t))
  return (title, ← afterMark? ',' rest)

/-- `it(…` or `test(…`, also with `.only` or `.skip`. -/
def testPattern : Pattern Text := fun before t => do
  guard (wordEdge before t)
  let rest ← afterOneOf? ["it".toList, "test".toList] t
  titleArgument? ((afterOneOf? [".only".toList, ".skip".toList] rest).getD rest)

def skipModifiers (t : Text) : Text :=
  match _h : afterOneOf? ([".only", ".skip", ".serial", ".parallel"].map String.toList) t with
  | none => t
  | some rest => if rest.length < t.length then skipModifiers rest else t
termination_by t.length

/-- `describe(…` or `test.describe(…`, with any chain of modifiers. -/
def groupPattern : Pattern Text := fun before t => do
  guard (wordEdge before t)
  let rest ← after? "describe".toList ((after? "test.".toList t).getD t)
  titleArgument? (skipModifiers rest)

def ofFound (f : Found Text) : Label := ⟨f.start, f.value⟩

end Label

namespace LabelIndex

open Label

def ofSource (t : Text) : LabelIndex where
  titles := (findAll testPattern t).map ofFound
  groups := (findAll groupPattern t).map ofFound

/-- How many labels lie at or before `offset`, found by halving the interval from `lo` to `hi`.
Where the labels ascend, these are the first ones. -/
def countUpTo (labels : Array Label) (offset : Int) (lo hi : Nat) : Nat :=
  if lo < hi then
    let mid := (lo + hi) / 2
    match labels[mid]? with
    | none => lo
    | some label =>
      if offset < label.offset then countUpTo labels offset lo mid
      else countUpTo labels offset (mid + 1) hi
  else lo
termination_by hi - lo

def nearest? (index : LabelIndex) (offset : Int) : Option Text :=
  match countUpTo index.titles.toArray offset 0 index.titles.length with
  | 0 => none
  | n + 1 => index.titles[n]?.map (·.title)

def outermost? (index : LabelIndex) : Option Text := index.groups.head?.map (·.title)

end LabelIndex
end EndpointManifest
