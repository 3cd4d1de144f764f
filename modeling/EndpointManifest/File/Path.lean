import EndpointManifest.Text.Blank

/-!
Paths in their normal form: empty parts and single dots are dropped, two dots stay.
-/

namespace EndpointManifest

/-- Where a path starts. Exactly two slashes at the front are kept apart from one. -/
inductive Anchor where
  | relative | root | doubleRoot
  deriving DecidableEq, Repr

structure Path where
  anchor : Anchor := .relative
  parts : List Text := []
  deriving DecidableEq, Repr

namespace Path

open Text

def ofText (t : Text) : Path where
  anchor := match t with
    | '/' :: '/' :: '/' :: _ => .root
    | '/' :: '/' :: _ => .doubleRoot
    | '/' :: _ => .root
    | _ => .relative
  parts := (splitOn '/' t).filter fun part => !(part.isEmpty || part == ['.'])

/-- A path as the system follows it: single dots stay, and a slash at the end counts as one. Both
ask for a directory before them. -/
def verbatim (t : Text) : Path :=
  let dot : List Text := if endsWith ['/'] t then [['.']] else []
  { ofText t with parts := (splitOn '/' t).filter (!·.isEmpty) ++ dot }

def isAbsolute (p : Path) : Bool := p.anchor != .relative

/-- The written form; the empty relative path is a dot. -/
def toText (p : Path) : Text :=
  let joined := join ['/'] p.parts
  match p.anchor with
  | .root => '/' :: joined
  | .doubleRoot => '/' :: '/' :: joined
  | .relative => if p.parts.isEmpty then ['.'] else joined

def name (p : Path) : Text := p.parts.getLast?.getD []

/-- The path `q` seen from `p`: an absolute `q` stands for itself. -/
def append (p q : Path) : Path :=
  if q.isAbsolute then q else { p with parts := p.parts ++ q.parts }

def child (p : Path) (name : Text) : Path := p.append (ofText name)

def relativeTo? (p base : Path) : Option Path :=
  if p.anchor = base.anchor && base.parts.isPrefixOf p.parts then
    some { parts := p.parts.drop base.parts.length }
  else none

end Path
end EndpointManifest
