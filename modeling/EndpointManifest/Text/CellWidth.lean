import EndpointManifest.Text.Blank
import EndpointManifest.Text.Table.CellWidth

/-!
The width of a text on a terminal, in cells, and texts filled up or cut to a width. Characters that
are shown as one make a cluster, which is never divided.
-/

namespace EndpointManifest.Text

/-- The cells that a character takes on its own. Control characters take none. -/
def cells (c : Char) : Nat :=
  let n := c.toNat
  if n < 0x20 || (0x7F ≤ n && n < 0xA0) then 0
  else if Table.zeroWidth.contains n then 0
  else if Table.doubleWidth.contains n then 2
  else 1

def isJoiner (c : Char) : Bool := c.toNat == 0x200D

def isPictureMark (c : Char) : Bool := c.toNat == 0xFE0F

/-- Whether the last character that took any cell takes one more as a picture. -/
def widens (last : Option Char) : Bool := last.any fun c => Table.widened.contains c.toNat

/-- The width of the rest of a text, after the character `last` that took any cell. -/
def widthAfter (last : Option Char) : Text → Nat
  | [] => 0
  | [c] => if isPictureMark c then (if widens last then 1 else 0) else cells c
  | c :: d :: rest =>
    if isJoiner c then widthAfter last rest
    else if isPictureMark c then (if widens last then 1 else 0) + widthAfter none (d :: rest)
    else cells c + widthAfter (if cells c = 0 then last else some c) (d :: rest)

def cellWidth (t : Text) : Nat := widthAfter none t

structure Cluster where
  text : Text
  width : Nat
  deriving DecidableEq, Repr

def clustersAfter (begun : Cluster) (last : Option Char) : Text → List Cluster
  | [] => [begun]
  | [c] =>
    if isPictureMark c then [⟨begun.text ++ [c], begun.width + if widens last then 1 else 0⟩]
    else if cells c = 0 then [⟨begun.text ++ [c], begun.width⟩]
    else [begun, ⟨[c], cells c⟩]
  | c :: d :: rest =>
    if isJoiner c then clustersAfter ⟨begun.text ++ [c, d], begun.width⟩ last rest
    else if isPictureMark c then
      if widens last then clustersAfter ⟨begun.text ++ [c], begun.width + 1⟩ none (d :: rest)
      else clustersAfter ⟨begun.text ++ [c], begun.width⟩ last (d :: rest)
    else if cells c = 0 then clustersAfter ⟨begun.text ++ [c], begun.width⟩ last (d :: rest)
    else begun :: clustersAfter ⟨[c], cells c⟩ (some c) (d :: rest)

def clusters : Text → List Cluster
  | [] => []
  | c :: rest => clustersAfter ⟨[c], cells c⟩ (if cells c = 0 then none else some c) rest

/-- The clusters that fit into `room` cells; a space stands for half of one that does not. -/
def takeClusters (room : Nat) : List Cluster → Text
  | [] => []
  | cluster :: rest =>
    if room = 0 then []
    else if cluster.width ≤ room then cluster.text ++ takeClusters (room - cluster.width) rest
    else [' ']

def takeCells (room : Nat) (t : Text) : Text := takeClusters room (clusters t)

def spaces (n : Nat) : Text := List.replicate n ' '

def padRight (width : Nat) (t : Text) : Text := t ++ spaces (width - cellWidth t)

def padLeft (width : Nat) (t : Text) : Text := spaces (width - cellWidth t) ++ t

/-- Fills up with spaces on both sides; an odd one goes behind the text. -/
def centre (width : Nat) (t : Text) : Text :=
  padRight width (spaces ((width - cellWidth t) / 2) ++ t)

end EndpointManifest.Text
