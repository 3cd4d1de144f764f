import EndpointManifest.Text.CharClass

/-!
A position in a YAML text, with its line and column, and the ways to move it forward. The text has
line feeds at the ends of its lines; next line and the two Unicode separators also end a line.
-/

namespace EndpointManifest.Yaml

open Text

def isBreak (c : Char) : Bool := c == '\n' || c == '\x85' || c == '\u2028' || c == '\u2029'

def isGap (c : Char) : Bool := c == ' ' || c == '\t' || isBreak c

def atGap (t : Text) : Bool := t.head?.all isGap

def atLineEnd (t : Text) : Bool := t.head?.all isBreak

def atSpace (t : Text) : Bool := t.head?.all fun c => c == ' ' || isBreak c

/-- `---` or `...` and a gap, as they stand between documents. -/
def atDocumentMarker (t : Text) : Bool :=
  (startsWith ['-', '-', '-'] t || startsWith ['.', '.', '.'] t) && atGap (t.drop 3)

structure Cursor where
  rest : Text
  index : Nat := 0
  line : Nat := 0
  column : Nat := 0
  deriving Repr

namespace Cursor

def byteOrderMark : Char := '\uFEFF'

/-- Passes one character. A byte-order mark takes no column. -/
def next (c : Cursor) : Cursor :=
  match c.rest with
  | [] => c
  | ch :: rest =>
    if isBreak ch then ⟨rest, c.index + 1, c.line + 1, 0⟩
    else ⟨rest, c.index + 1, c.line, if ch = byteOrderMark then c.column else c.column + 1⟩

def skip : Nat → Cursor → Cursor
  | 0, c => c
  | n + 1, c => skip n c.next

def peek? (c : Cursor) : Option Char := c.rest.head?

def at? (c : Cursor) (n : Nat) : Option Char := c.rest[n]?

def atChar (c : Cursor) (ch : Char) : Bool := c.peek? = some ch

def takeWhile (p : Char → Bool) (c : Cursor) : Text × Cursor :=
  let run := c.rest.takeWhile p
  (run, c.skip run.length)

def skipWhile (p : Char → Bool) (c : Cursor) : Cursor := (c.takeWhile p).2

def skipSpaces (c : Cursor) : Cursor := c.skipWhile (· == ' ')

def skipComment (c : Cursor) : Cursor :=
  if c.atChar '#' then c.skipWhile fun ch => !isBreak ch else c

/-- A break, as it counts in a scalar: the ends of ordinary lines are line feeds. -/
def lineBreak? (c : Cursor) : Option (Char × Cursor) :=
  match c.peek? with
  | some ch => if isBreak ch then some (if ch = '\x85' then '\n' else ch, c.next) else none
  | none => none

end Cursor
end EndpointManifest.Yaml
