import EndpointManifest.Text.Wrap

/-!
A table drawn with box characters: a title centred above it, a heavy frame around the headings, a
light one around the rows. Every column is as wide as its widest cell if the table fits on a line of
the terminal, and a row is as high as its highest cell.
-/

namespace EndpointManifest.Text

structure Column where
  heading : Text
  alignsRight : Bool := false
  deriving Repr

structure Grid where
  title : Text
  columns : List Column
  /-- Each row has one cell for each column. -/
  rows : List (List Text)
  deriving Repr

namespace Grid

def lineWidth : Nat := 80

/-- The cells for the columns, each with a space on both sides of it, beside the bars of the frame.
-/
def room (g : Grid) : Nat := lineWidth - (g.columns.length + 1)

def wantedWidths (g : Grid) : List Nat :=
  (g.rows.foldl (fun widths row => widths.zipWith max (row.map naturalWidth))
    (g.columns.map fun c => naturalWidth c.heading)).map fun width => min (width + 2) g.room

def takeAway (n target : Nat) : List Nat → List Nat
  | [] => []
  | width :: rest => if width = target then (width - n) :: rest else width :: takeAway n target rest

/-- The columns' widths. If the table is too wide, the widest column gives way. -/
def widths (g : Grid) : List Nat :=
  let wanted := g.wantedWidths
  let excess := wanted.foldr (· + ·) 0 - g.room
  (takeAway excess (wanted.foldl max 0) wanted).map (· - 2)

def rule (left fill crossing right : Char) (widths : List Nat) : Text :=
  left :: join [crossing] (widths.map fun w => List.replicate (w + 2) fill) ++ [right]

def line (bar : Char) (cells : List Text) : Text :=
  bar :: join [bar] (cells.map fun cell => ' ' :: cell ++ [' ']) ++ [bar]

def cellLines (g : Grid) (row : List Text) : List (Nat × List Text) :=
  ((g.columns.zip g.widths).zip row).map fun ((c, width), cell) =>
    (width, setLines width c.alignsRight cell)

/-- The lines of a row; a cell that has fewer ends in empty ones. -/
def rowLines (g : Grid) (bar : Char) (row : List Text) : List Text :=
  let cells := g.cellLines row
  (List.range ((cells.map fun (_, lines) => lines.length).foldl max 0)).map fun i =>
    line bar (cells.map fun (width, lines) => lines[i]?.getD (spaces width))

def fullWidth (g : Grid) : Nat := g.widths.foldr (fun width rest => width + 3 + rest) 1

def lines (g : Grid) : List Text :=
  [centre g.fullWidth g.title, rule '┏' '━' '┳' '┓' g.widths] ++
    g.rowLines '┃' (g.columns.map (·.heading)) ++
    [rule '┡' '━' '╇' '┩' g.widths] ++
    g.rows.flatMap (g.rowLines '│') ++
    [rule '└' '─' '┴' '┘' g.widths]

def render (g : Grid) : Text := g.lines.flatMap (· ++ ['\n'])

end Grid
end EndpointManifest.Text
